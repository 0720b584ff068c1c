import Signet.Text.CodePoint

/-!
# The program

The name and the version under which the program presents itself.
-/
namespace Signet
namespace Program

def name : Text := "provstore"

def version : Text := "0.1.0"

end Program
end Signet
