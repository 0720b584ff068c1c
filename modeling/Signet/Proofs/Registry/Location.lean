import Mathlib
import Signet.Proofs.Registry.Address
import Signet.Proofs.Text.Decimal

/-!
# Where uploads are sent

A registry tells a location that is relative to its host. Resolved against the address that
started the upload, it names uploads again, maybe of another repository: line feeds are
removed on the way, so a repository whose name holds one is left. It never names a manifest.
-/
namespace Signet

namespace Url

/-- What cleaning leaves inside of an address. -/
def keeps (c : CodePoint) : Bool := c.val ≠ 0x09 && c.val ≠ 0x0A && c.val ≠ 0x0D

theorem clean_cons {c : CodePoint} {t : Text} (h : 0x20 < c.val) :
    clean (c :: t) = c :: t.filter keeps := by
  have hdrop : ¬ c.val ≤ 0x20 := by omega
  have hkeep : keeps c = true := by
    simp only [keeps, Bool.and_eq_true, decide_eq_true_eq]
    omega
  have hclean : clean (c :: t) = ((c :: t).dropWhile fun c => c.val ≤ 0x20).filter keeps := rfl
  rw [hclean, List.dropWhile_cons_of_neg (by simpa using hdrop), List.filter_cons_of_pos hkeep]

/-- The authority that stands in front of a path. -/
def authorityOf (rest : Text) : Text :=
  if rest.startsWith "//" then (rest.drop 2).takeWhile fun c => !endsAuthority c else []

/-- The parts of an address that is read. -/
theorem parse_eq_ok {scheme t : Text} {u : Url} (h : parse scheme t = .ok u) :
    u.scheme = (takeScheme scheme (clean t)).1 ∧
      u.authority = authorityOf (takeScheme scheme (clean t)).2 := by
  rw [parse] at h
  dsimp only [Bind.bind, Except.bind, Pure.pure, Except.pure] at h
  split at h
  · cases h
  split at h
  · cases h
  cases h
  exact ⟨rfl, rfl⟩

/-- Only the authority of an address is checked. -/
theorem exists_parse {scheme t : Text}
    (hcheck : checkAuthority (authorityOf (takeScheme scheme (clean t)).2) = .ok ())
    (hlook : checkLookalikes (authorityOf (takeScheme scheme (clean t)).2) = .ok ()) :
    ∃ u, parse scheme t = .ok u := by
  rw [authorityOf] at hcheck hlook
  rw [parse]
  simp only [hcheck, hlook, Bind.bind, Except.bind, Pure.pure, Except.pure]
  exact ⟨_, rfl⟩

/-- An address without authority is read as it is, apart from characters that are removed. -/
theorem parse_path {scheme location path query : Text} 
    (hstart : ∃ c t, path = ('/' : CodePoint) :: c :: t ∧ c ≠ '/')
    (hcolon : (':' : CodePoint) ∉ path ++ ('?' : CodePoint) :: query)
    (hhash : ('#' : CodePoint) ∉ path ++ ('?' : CodePoint) :: query)
    (hquestion : ('?' : CodePoint) ∉ path) (hsemicolon : (';' : CodePoint) ∉ path)
    (hclean : clean location = path ++ ('?' : CodePoint) :: query) :
    parse scheme location = .ok ⟨scheme, [], path, [], query, []⟩ := by
  obtain ⟨c, t, rfl, hc⟩ := hstart
  have hscheme : takeScheme scheme (('/' : CodePoint) :: c :: t ++ ('?' : CodePoint) :: query) =
      (scheme, ('/' : CodePoint) :: c :: t ++ ('?' : CodePoint) :: query) := by
    rw [takeScheme, Text.cut?_eq_none_iff.2 hcolon]
  have hauthority : Text.startsWith (('/' : CodePoint) :: c :: t ++ ('?' : CodePoint) :: query)
      "//" = false := by
    have hmark : ("//" : Text) = [CodePoint.ofChar '/', CodePoint.ofChar '/'] := rfl
    simp [Text.startsWith, hmark, List.isPrefixOf, Ne.symm hc]
  have hfragment : cutAt (('/' : CodePoint) :: c :: t ++ ('?' : CodePoint) :: query) '#' =
      (('/' : CodePoint) :: c :: t ++ ('?' : CodePoint) :: query, []) := by
    rw [cutAt, Text.cut?_eq_none_iff.2 hhash]
    rfl
  have hquery : cutAt (('/' : CodePoint) :: c :: t ++ ('?' : CodePoint) :: query) '?' =
      (('/' : CodePoint) :: c :: t, query) := by
    rw [cutAt, Text.cut?_append_cons hquestion]
    rfl
  have hparams : takeParams (('/' : CodePoint) :: c :: t) = (('/' : CodePoint) :: c :: t, []) := by
    rw [takeParams]
    split
    · rename_i directory last hlast
      have hmem : (';' : CodePoint) ∉ last := by
        intro hmem
        exact hsemicolon (by simp [Text.eq_of_cutLast?_eq_some hlast, hmem])
      rw [Text.cut?_eq_none_iff.2 hmem]
    · rw [cutAt, Text.cut?_eq_none_iff.2 hsemicolon]
      rfl
  rw [parse, hclean]
  simp only [hscheme, hauthority, Bool.false_eq_true, if_false, hfragment, hquery, hparams]
  rfl

theorem resolveFrom_of_forall {segments : List Text}
    (h : ∀ s ∈ segments, s ≠ "." ∧ s ≠ "..") (resolved : List Text) :
    resolveFrom resolved segments = resolved ++ segments := by
  induction segments generalizing resolved with
  | nil => simp [resolveFrom]
  | cons s segments ih =>
    obtain ⟨hone, htwo⟩ := h s (by simp)
    rw [resolveFrom, if_neg htwo, if_neg hone, ih fun s hs => h s (by simp [hs])]
    simp

/-- An absolute path without steps to the same or to the upper directory is kept. -/
theorem joinPath_of_absolute (base : Text) {t : Text}
    (h : ∀ s ∈ Text.split (('/' : CodePoint) :: t) '/', s ≠ "." ∧ s ≠ "..") :
    joinPath base (('/' : CodePoint) :: t) = ('/' : CodePoint) :: t := by
  have hhead : ((('/' : CodePoint) :: t).head? == some (CodePoint.ofChar '/')) = true := by simp
  have hresolved := resolveFrom_of_forall h []
  have hslash : ("/" : Text) = [CodePoint.ofChar '/'] := rfl
  obtain ⟨last, hlast⟩ : ∃ last,
      (Text.split (('/' : CodePoint) :: t) '/').getLast? = some last :=
    Option.isSome_iff_exists.1 (by simpa using Text.split_ne_nil _ _)
  obtain ⟨hone, htwo⟩ := h last (List.mem_of_getLast? hlast)
  rw [List.nil_append] at hresolved
  simp only [joinPath, CodePoint.some_bind_ofChar, hhead, if_true, hresolved, hlast, hone, htwo,
    or_self, if_false]
  rw [hslash, Text.join_split]
  rfl

/-- A location that is an absolute path with a query keeps both; scheme and authority are
those of the base. -/
theorem join_of_path {base location t query : Text} {b : Url} (hlocation : location ≠ [])
    (hb : parse [] base = .ok b)
    (hu : parse b.scheme location = .ok ⟨b.scheme, [], ('/' : CodePoint) :: t, [], query, []⟩)
    (hquery : query ≠ []) (h : ∀ s ∈ Text.split (('/' : CodePoint) :: t) '/', s ≠ "." ∧ s ≠ "..") :
    join base location =
      .ok (b.scheme ++ "://" ++ (b.authority ++ ('/' : CodePoint) :: t ++ "?" ++ query)) := by
  have hjoined := joinPath_of_absolute b.path h
  rw [join, if_neg (by simpa using hlocation)]
  simp only [hb, hu, Bind.bind, Except.bind, Pure.pure, Except.pure]
  have hempty : ("" : Text) = [] := rfl
  simp [hjoined, toText, marked, hquery, hempty]

/-- The scheme of an address is taken off. -/
theorem takeScheme_clean {name : Text} (hne : name ≠ []) (h : ∀ c ∈ name, c.isAsciiLower = true)
    (t : Text) : takeScheme [] (clean (name ++ "://" ++ t)) = (name, "//" ++ t.filter keeps) := by
  have hval {c : CodePoint} (hc : c ∈ name) : 0x61 ≤ c.val ∧ c.val ≤ 0x7A := by
    simpa [CodePoint.isAsciiLower] using h c hc
  have hkeep : name.filter keeps = name := by
    apply List.filter_eq_self.2
    intro c hc
    have hc := hval hc
    simp only [keeps, Bool.and_eq_true, decide_eq_true_eq]
    omega
  have hcolon : (':' : CodePoint) ∉ name := by
    intro hc
    exact absurd (h _ hc) (by decide)
  have hlower : name.map (fun c => if c.isAsciiUpper then CodePoint.ofNat (c.val + 32) else c) =
      name := by
    refine (List.map_congr_left fun c hc => ?_).trans (List.map_id name)
    have hc := hval hc
    have hupper : c.isAsciiUpper = false := by
      simp only [CodePoint.isAsciiUpper, Bool.and_eq_false_iff, decide_eq_false_iff_not]
      omega
    simp [hupper]
  have hscheme : name.all isSchemeCharacter = true := by
    apply List.all_eq_true.2
    intro c hc
    simp [isSchemeCharacter, CodePoint.isAsciiLetter, h c hc]
  have hclean : clean (name ++ "://" ++ t) =
      name ++ (':' : CodePoint) :: ("//" ++ t.filter keeps) := by
    have hmark : Text.ofString "://" = (':' : CodePoint) :: "//" := rfl
    have hmarkKept : List.filter keeps (Text.ofString "://") = (':' : CodePoint) :: "//" := by
      decide
    obtain ⟨c, rest, rfl⟩ := List.exists_cons_of_ne_nil hne
    have hc := hval (List.mem_cons_self (a := c) (l := rest))
    have hrest : rest.filter keeps = rest := by
      have hc : keeps c = true := (List.filter_eq_self.1 hkeep) c (by simp)
      simpa [hc] using hkeep
    rw [List.cons_append, List.cons_append, clean_cons (by omega), List.filter_append,
      List.filter_append, hrest, hmarkKept]
    simp
  rw [hclean, takeScheme, Text.cut?_append_cons hcolon]
  obtain ⟨c, rest, rfl⟩ := List.exists_cons_of_ne_nil hne
  have hletter : c.isAsciiLetter = true := by simp [CodePoint.isAsciiLetter, h c (by simp)]
  simp only [hletter, hscheme, Bool.and_self, if_true, hlower]

/-- What is read of the address of something in a repository. -/
theorem parse_web {name t : Text} {u : Url} (hne : name ≠ [])
    (h : ∀ c ∈ name, c.isAsciiLower = true) (hu : parse [] (name ++ "://" ++ t) = .ok u) :
    u.scheme = name ∧ ∀ c ∈ u.authority, endsAuthority c = false := by
  obtain ⟨hscheme, hauthority⟩ := parse_eq_ok hu
  rw [takeScheme_clean hne h] at hscheme hauthority
  have hstart : Text.startsWith ("//" ++ t.filter keeps) "//" = true := by
    simp [Text.startsWith]
  refine ⟨hscheme, ?_⟩
  intro c hc
  rw [hauthority, authorityOf, if_pos hstart] at hc
  simpa using List.mem_takeWhile_imp hc

/-- What is read of an address as its authority: what stands in front of the first mark that ends
it, without tabs and line ends. -/
theorem authorityOf_web {name authority rest : Text} (hne : name ≠ [])
    (hname : ∀ c ∈ name, c.isAsciiLower = true)
    (hauthority : ∀ c ∈ authority, endsAuthority c = false)
    (hrest : ∀ c ∈ rest.head?, endsAuthority c = true) :
    authorityOf (takeScheme [] (clean (name ++ "://" ++ (authority ++ rest)))).2 =
      authority.filter keeps := by
  have hmark : ("//" : Text) = [CodePoint.ofChar '/', CodePoint.ofChar '/'] := rfl
  have hstart : Text.startsWith ("//" ++ (authority ++ rest).filter keeps) "//" = true := by
    simp [Text.startsWith]
  have hends : (rest.filter keeps).takeWhile (fun c => !endsAuthority c) = [] := by
    cases rest with
    | nil => rfl
    | cons c rest =>
      have hc : endsAuthority c = true := hrest c rfl
      have hkeep : keeps c = true := by
        simp only [endsAuthority, Bool.or_eq_true, decide_eq_true_eq] at hc
        rcases hc with (rfl | rfl) | rfl <;> decide
      rw [List.filter_cons_of_pos hkeep, List.takeWhile_cons_of_neg (by simp [hc])]
  rw [takeScheme_clean hne hname, authorityOf, if_pos hstart, hmark]
  simp only [List.cons_append, List.nil_append, List.drop_succ_cons, List.drop_zero,
    List.filter_append]
  rw [List.takeWhile_append_of_pos fun c hc => by
    simp [hauthority c (List.mem_of_mem_filter hc)], hends, List.append_nil]

end Url

/-- The address of anything in a repository, by its scheme and its registry. -/
theorem RemoteOptions.exists_url_eq (o : RemoteOptions) (repository : Repository) (path : Text) :
    ∃ name t : Text, o.url repository path =
        name ++ "://" ++ (repository.registry ++ ('/' : CodePoint) :: t) ∧
      name = (if o.insecure then ("http" : Text) else "https") ∧ name ≠ [] ∧
      ∀ c ∈ name, c.isAsciiLower = true := by
  refine ⟨if o.insecure then ("http" : Text) else "https", "v2/" ++ repository.path ++ "/" ++ path,
    ?_, rfl, ?_⟩
  · have hversion : Text.ofString "/v2/" = ('/' : CodePoint) :: "v2/" := rfl
    simp [RemoteOptions.url, hversion]
  · split <;> decide

namespace Registry

open Remote (uploadsUrl)
open Grammar (IsComponentCharacter IsHostMark)

variable {o : RemoteOptions} {repository : Repository}

/-- The location of an upload. -/
def location (name : Text) (count : Nat) : Text :=
  "/v2/" ++ name ++ "/blobs/uploads/" ++ Decimal.ofNat count ++ "?state=x"

/-- A path as it is left when the location of an upload is resolved. -/
def resolvedPath (path : Text) : Text := path.filter Url.keeps

theorem mem_resolvedPath (h : repository.Parsed) {c : CodePoint}
    (hc : c ∈ resolvedPath repository.path) : IsComponentCharacter c ∨ c = '/' := by
  obtain ⟨hc, hkeep⟩ := List.mem_filter.1 hc
  rcases h.path hc with hc | rfl | hc
  · exact .inl hc
  · exact absurd hkeep (by decide)
  · exact .inr hc

theorem resolvedPart_ne_step {part : Text} (h : Grammar.isComponent (Grammar.line part) = true) :
    part.filter Url.keeps ≠ "." ∧ part.filter Url.keeps ≠ ".." := by
  obtain ⟨c, rest, rfl, hc⟩ := Grammar.exists_cons_of_isComponent h
  have hkeep : Url.keeps c = true := by
    simp only [Grammar.isPathCharacter, CodePoint.isAsciiLower, CodePoint.isAsciiDigit,
      Bool.or_eq_true, Bool.and_eq_true, decide_eq_true_eq] at hc
    simp only [Url.keeps, Bool.and_eq_true, decide_eq_true_eq]
    omega
  have hdot : c ≠ '.' := by
    rintro rfl
    exact absurd hc (by decide)
  rw [List.filter_cons_of_pos hkeep]
  constructor
  · intro heq
    exact hdot (List.cons.inj heq).1
  · intro heq
    exact hdot (List.cons.inj heq).1

/-- What stands behind the first slash of a location, up to its query. -/
def locationPath (name : Text) (count : Nat) : Text :=
  "v2/" ++ resolvedPath name ++ "/blobs/uploads/" ++ Decimal.ofNat count

theorem clean_location (name : Text) (count : Nat) :
    Url.clean (location name count) =
      (('/' : CodePoint) :: locationPath name count) ++ ('?' : CodePoint) :: "state=x" := by
  have hversion : Text.ofString "/v2/" = ('/' : CodePoint) :: "v2/" := rfl
  have hkeepVersion : List.filter Url.keeps (Text.ofString "v2/") = "v2/" := by decide
  have hkeepUploads : List.filter Url.keeps (Text.ofString "/blobs/uploads/") =
      "/blobs/uploads/" := by decide
  have hkeepQuery : List.filter Url.keeps (Text.ofString "?state=x") =
      ('?' : CodePoint) :: "state=x" := by decide
  have hkeepCount : List.filter Url.keeps (Decimal.ofNat count) = Decimal.ofNat count := by
    apply List.filter_eq_self.2
    intro c hc
    have hdigit := Decimal.isAsciiDigit_of_mem_ofNat hc
    simp only [CodePoint.isAsciiDigit, Bool.and_eq_true, decide_eq_true_eq] at hdigit
    simp only [Url.keeps, Bool.and_eq_true, decide_eq_true_eq]
    omega
  rw [location, hversion]
  simp only [List.cons_append, Url.clean_cons (show 0x20 < (CodePoint.ofChar '/').val by decide),
    List.filter_append, hkeepVersion, hkeepUploads, hkeepQuery, hkeepCount, locationPath,
    resolvedPath]

/-- The characters of a location up to its query. -/
theorem mem_locationPath (h : repository.Parsed) {count : Nat} {c : CodePoint}
    (hc : c ∈ ('/' : CodePoint) :: locationPath repository.path count) :
    IsComponentCharacter c ∨ c = '/' := by
  simp only [locationPath, List.mem_cons, List.mem_append] at hc
  rcases hc with rfl | ((hc | hc) | hc) | hc
  · exact .inr rfl
  · have hall : ∀ c ∈ ("v2/" : Text), IsComponentCharacter c ∨ c = '/' := by
      unfold IsComponentCharacter
      decide
    exact hall c hc
  · exact mem_resolvedPath h hc
  · have hall : ∀ c ∈ ("/blobs/uploads/" : Text), IsComponentCharacter c ∨ c = '/' := by
      unfold IsComponentCharacter
      decide
    exact hall c hc
  · have hdigit := Decimal.isAsciiDigit_of_mem_ofNat hc
    exact .inl (.inl (by simp [Grammar.isPathCharacter, hdigit]))

theorem split_locationPath (name : Text) (count : Nat) :
    Text.split (('/' : CodePoint) :: locationPath name count) '/' =
      ([[], ("v2" : Text)] ++ (resolvedPath name).split '/') ++
        [("blobs" : Text), "uploads", Decimal.ofNat count] := by
  have hshape : ('/' : CodePoint) :: locationPath name count =
      [] ++ ('/' : CodePoint) :: (("v2" : Text) ++ ('/' : CodePoint) :: (resolvedPath name ++
        ('/' : CodePoint) :: (("blobs" : Text) ++ ('/' : CodePoint) :: (("uploads" : Text) ++
          ('/' : CodePoint) :: Decimal.ofNat count)))) := by
    have hversion : Text.ofString "v2/" = "v2" ++ [CodePoint.ofChar '/'] := rfl
    have huploads : Text.ofString "/blobs/uploads/" = CodePoint.ofChar '/' ::
        ("blobs" ++ CodePoint.ofChar '/' :: ("uploads" ++ [CodePoint.ofChar '/'])) := rfl
    simp [locationPath, hversion, huploads]
  have hnoslash {t : Text} (ht : ('/' : CodePoint) ∉ t) : t.split '/' = [t] :=
    Text.split_of_not_mem ht
  have hcount : ('/' : CodePoint) ∉ Decimal.ofNat count := fun hc =>
    absurd (Decimal.isAsciiDigit_of_mem_ofNat hc) (by decide)
  rw [hshape]
  have hversion : CodePoint.ofChar '/' ∉ ("v2" : Text) := by decide
  simp only [Text.split_append_cons, hnoslash hversion,
    hnoslash (show (CodePoint.ofChar '/') ∉ ("blobs" : Text) by decide),
    hnoslash (show (CodePoint.ofChar '/') ∉ ("uploads" : Text) by decide), hnoslash hcount,
    hnoslash (List.not_mem_nil)]
  simp

/-- A location is read as a path and a query, whatever scheme is meant. -/
theorem parse_location (h : repository.Parsed) (scheme : Text) (count : Nat) :
    Url.parse scheme (location repository.path count) =
      .ok ⟨scheme, [], ('/' : CodePoint) :: locationPath repository.path count, [],
        "state=x", []⟩ := by
  have hpath {d : CodePoint} (hd : ¬ (IsComponentCharacter d ∨ d = '/')) :
      d ∉ ('/' : CodePoint) :: locationPath repository.path count :=
    fun hc => hd (mem_locationPath h hc)
  have hwhole {d : CodePoint} (hd : ¬ (IsComponentCharacter d ∨ d = '/'))
      (hquery : d ∉ ('?' : CodePoint) :: ("state=x" : Text)) :
      d ∉ (('/' : CodePoint) :: locationPath repository.path count) ++
        ('?' : CodePoint) :: "state=x" := by
    rw [List.mem_append]
    exact fun hc => hc.elim (hpath hd) hquery
  refine Url.parse_path ⟨'v', _, rfl, by decide⟩ (hwhole ?_ (by decide)) (hwhole ?_ (by decide))
    (hpath ?_) (hpath ?_) (clean_location _ _)
  all_goals
    unfold IsComponentCharacter
    decide

/-- A location has no steps to the same or to the upper directory. -/
theorem ne_step_of_mem_location (h : repository.Parsed) {count : Nat} {s : Text}
    (hs : s ∈ Text.split (('/' : CodePoint) :: locationPath repository.path count) '/') :
    s ≠ "." ∧ s ≠ ".." := by
  rw [split_locationPath, List.mem_append, List.mem_append] at hs
  rcases hs with (hs | hs) | hs
  · have hall : ∀ s ∈ [[], ("v2" : Text)], s ≠ "." ∧ s ≠ ".." := by decide
    exact hall s hs
  · rw [resolvedPath, Text.split_filter (by decide)] at hs
    obtain ⟨part, hpart, rfl⟩ := List.mem_map.1 hs
    exact resolvedPart_ne_step (h.component part hpart)
  · have hdigits {t : Text} (ht : ∃ c ∈ t, c.isAsciiDigit = false) : Decimal.ofNat count ≠ t := by
      obtain ⟨c, hc, hdigit⟩ := ht
      rintro rfl
      rw [Decimal.isAsciiDigit_of_mem_ofNat hc] at hdigit
      cases hdigit
    simp only [List.mem_cons, List.not_mem_nil, or_false] at hs
    rcases hs with rfl | rfl | rfl
    · decide
    · decide
    · exact ⟨hdigits (by decide), hdigits (by decide)⟩

/-- The segments behind the name of a repository in the address of an upload. -/
theorem split_upload (count : Nat) :
    (beforeMarks ("blobs/uploads/" ++ Decimal.ofNat count ++ "?state=x")).split '/' =
      [("blobs" : Text), "uploads", Decimal.ofNat count] := by
  have hdigits : ∀ c ∈ Decimal.ofNat count, endsPath c = false ∧ c ≠ '/' := by
    intro c hc
    have hdigit := Decimal.isAsciiDigit_of_mem_ofNat hc
    have hne {d : CodePoint} (hd : d.isAsciiDigit = false) : c ≠ d := by
      rintro rfl
      rw [hd] at hdigit
      cases hdigit
    simp only [endsPath, Bool.or_eq_false_iff, decide_eq_false_iff_not]
    exact ⟨⟨hne (by decide), hne (by decide)⟩, hne (by decide)⟩
  have hkeep : ∀ c ∈ "blobs/uploads/" ++ Decimal.ofNat count, endsPath c = false := by
    intro c hc
    rcases List.mem_append.1 hc with hc | hc
    · have hall : ∀ c ∈ ("blobs/uploads/" : Text), endsPath c = false := by decide
      exact hall c hc
    · exact (hdigits c hc).1
  have huploads : Text.ofString "blobs/uploads/" ++ Decimal.ofNat count =
      "blobs" ++ CodePoint.ofChar '/' ::
        ("uploads" ++ CodePoint.ofChar '/' :: Decimal.ofNat count) := by
    have hmark : Text.ofString "blobs/uploads/" =
        "blobs" ++ CodePoint.ofChar '/' :: ("uploads" ++ [CodePoint.ofChar '/']) := rfl
    simp [hmark]
  have hrest : beforeMarks "?state=x" = [] := by decide
  rw [beforeMarks_append hkeep, hrest, List.append_nil, huploads, Text.split_append_cons,
    Text.split_append_cons, Text.split_of_not_mem (by decide), Text.split_of_not_mem (by decide),
    Text.split_of_not_mem fun hc => (hdigits _ hc).2 rfl]
  rfl

theorem endsPath_resolvedPath (h : repository.Parsed) {c : CodePoint}
    (hc : c ∈ resolvedPath repository.path) : endsPath c = false := by
  have hne {d : CodePoint} (hd : ¬ (IsComponentCharacter d ∨ d = '/')) : c ≠ d := by
    rintro rfl
    exact hd (mem_resolvedPath h hc)
  simp only [endsPath, Bool.or_eq_false_iff, decide_eq_false_iff_not]
  exact ⟨hne (by unfold IsComponentCharacter; decide), hne (by unfold IsComponentCharacter; decide)⟩

/-- The repository to which the content of an upload is sent, none if the address that starts
uploads is refused. -/
def uploadName? (o : RemoteOptions) (repository : Repository) : Option Text :=
  (Url.parse [] (uploadsUrl o repository)).toOption.map fun b =>
    b.authority ++ "/" ++ resolvedPath repository.path

/-- A registry has no mark that ends an authority. -/
theorem endsAuthority_registry (h : repository.Parsed) {c : CodePoint}
    (hc : c ∈ repository.registry) : Url.endsAuthority c = false := by
  rcases h.registry hc with hmark | rfl
  · have hne {d : CodePoint} (hd : ¬ IsHostMark d) : c ≠ d := by
      rintro rfl
      exact hd hmark
    have hslash : c ≠ '/' := hne (by unfold IsHostMark; decide)
    have hquestion : c ≠ '?' := hne (by unfold IsHostMark; decide)
    have hhash : c ≠ '#' := hne (by unfold IsHostMark; decide)
    simp [Url.endsAuthority, hslash, hquestion, hhash]
  · decide

/-- A registry without line feeds stays as it is. -/
theorem filter_registry (h : repository.Parsed)
    (hline : ('\n' : CodePoint) ∉ repository.registry) :
    repository.registry.filter Url.keeps = repository.registry := by
  apply List.filter_eq_self.2
  intro c hc
  rcases h.registry hc with hmark | rfl
  · have hval := Grammar.val_of_isHostMark hmark
    simp only [Url.keeps, Bool.and_eq_true, decide_eq_true_eq]
    omega
  · exact absurd hc hline

/-- A path without line feeds stays as it is. -/
theorem resolvedPath_of_line (h : repository.Parsed)
    (hline : ('\n' : CodePoint) ∉ repository.path) :
    resolvedPath repository.path = repository.path := by
  apply List.filter_eq_self.2
  intro c hc
  have hne {d : CodePoint} (hd : ¬ IsComponentCharacter d) (hd' : d ≠ '/') (hd'' : d ≠ '\n') :
      c ≠ d := by
    rintro rfl
    exact h.not_mem_path hd hd'' hd' hc
  have htab : c ≠ '\t' := hne (by unfold IsComponentCharacter; decide) (by decide) (by decide)
  have hreturn : c ≠ '\r' := hne (by unfold IsComponentCharacter; decide) (by decide) (by decide)
  have hfeed : c ≠ '\n' := fun heq => hline (heq ▸ hc)
  simp only [ne_eq, CodePoint.eq_ofChar_iff] at htab hreturn hfeed
  simp only [Url.keeps, Bool.and_eq_true, decide_eq_true_eq]
  exact ⟨⟨htab, hfeed⟩, hreturn⟩

/-- A repository whose name has no line feed. -/
def InLine (repository : Repository) : Prop := ('\n' : CodePoint) ∉ repository.toText

instance (repository : Repository) : Decidable (InLine repository) :=
  inferInstanceAs (Decidable (¬ _))

theorem InLine.not_mem (h : InLine repository) :
    ('\n' : CodePoint) ∉ repository.registry ∧ ('\n' : CodePoint) ∉ repository.path := by
  simp only [InLine, Repository.toText, List.mem_append, not_or] at h
  exact ⟨h.1.1, h.2⟩

/-- The address that starts uploads has the registry as its authority, without line feeds. -/
theorem authorityOf_uploadsUrl (h : repository.Parsed) (o : RemoteOptions) :
    Url.authorityOf (Url.takeScheme [] (Url.clean (uploadsUrl o repository))).2 =
      repository.registry.filter Url.keeps := by
  obtain ⟨scheme, t, hurl, -, hscheme, hlower⟩ := o.exists_url_eq repository "blobs/uploads/"
  rw [uploadsUrl, hurl]
  refine Url.authorityOf_web hscheme hlower (fun c hc => endsAuthority_registry h hc) ?_
  intro c hc
  obtain rfl : CodePoint.ofChar '/' = c := by simpa using hc
  decide

/-- Without line feeds, uploads are sent to the repository that they are made for. -/
theorem eq_of_uploadName? (h : repository.Parsed) (hline : InLine repository) {name : Text}
    (hname : uploadName? o repository = some name) : name = repository.toText := by
  have hregistry := (authorityOf_uploadsUrl h o).trans (filter_registry h hline.not_mem.1)
  cases hb : Url.parse [] (uploadsUrl o repository) with
  | error e =>
    rw [uploadName?, hb] at hname
    cases hname
  | ok b =>
    have hauthority := (Url.parse_eq_ok hb).2
    rw [uploadName?, hb, resolvedPath_of_line h hline.not_mem.2] at hname
    have hsame := Option.some.inj hname
    rw [← hsame]
    dsimp only
    rw [hauthority, hregistry]
    rfl

/-- Without line feeds, uploads can be started unless the registry is an address in brackets. -/
theorem uploadName?_eq_some (h : repository.Parsed) (hline : InLine repository)
    (hbracket : ('[' : CodePoint) ∉ repository.registry) (o : RemoteOptions) :
    uploadName? o repository = some repository.toText := by
  have hregistry := (authorityOf_uploadsUrl h o).trans (filter_registry h hline.not_mem.1)
  have hcheck : Url.checkAuthority repository.registry = .ok () := by
    simp [Url.checkAuthority, hbracket, h.not_mem_bracket hbracket]
  have hlook : Url.checkLookalikes repository.registry = .ok () := by
    have hsmall : ∀ n ∈ Url.lookalikes, 0x80 ≤ n := by decide
    have hnone : ∀ c ∈ repository.registry, c.val ∉ Url.lookalikes := by
      intro c hc hmem
      have hlarge := hsmall c.val hmem
      rcases h.registry hc with hmark | rfl
      · have hval := Grammar.val_of_isHostMark hmark
        omega
      · exact hline.not_mem.1 hc
    simpa [Url.checkLookalikes] using hnone
  rw [← hregistry] at hcheck hlook
  obtain ⟨b, hb⟩ := Url.exists_parse hcheck hlook
  obtain ⟨name, hname⟩ : ∃ name, uploadName? o repository = some name := by
    rw [uploadName?, hb]
    exact ⟨_, rfl⟩
  rw [hname, eq_of_uploadName? h hline hname]

/-- A location is resolved against the address that started the upload. -/
theorem exists_join_location (h : repository.Parsed) {name : Text}
    (hname : uploadName? o repository = some name) (count : Nat) :
    ∃ url, Url.join (uploadsUrl o repository) (location repository.path count) = .ok url := by
  have hne : location repository.path count ≠ [] := by simp [location, Text.ofString]
  cases hb : Url.parse [] (uploadsUrl o repository) with
  | error e =>
    rw [uploadName?, hb] at hname
    cases hname
  | ok b =>
    exact ⟨_, Url.join_of_path hne hb (parse_location h _ _) (by decide)
      fun s hs => ne_step_of_mem_location h hs⟩

/-- A location resolved against the address that started the upload names uploads. -/
theorem query?_location (h : repository.Parsed) {count : Nat} {url : Text}
    (hjoin : Url.join (uploadsUrl o repository) (location repository.path count) = .ok url) :
    ∃ t name, target? url = some t ∧ query? t.segments = some (.upload name) ∧
      uploadName? o repository = some (t.host ++ "/" ++ name) := by
  have hne : location repository.path count ≠ [] := by simp [location, Text.ofString]
  cases hb : Url.parse [] (uploadsUrl o repository) with
  | error e =>
    rw [Url.join, if_neg (by simpa using hne), hb] at hjoin
    cases hjoin
  | ok b =>
    obtain ⟨scheme, t, hurl, -, hscheme, hlower⟩ := o.exists_url_eq repository "blobs/uploads/"
    have hread := hb
    rw [uploadsUrl, hurl] at hread
    obtain ⟨hbscheme, hauthority⟩ := Url.parse_web hscheme hlower hread
    rw [Url.join_of_path hne hb (parse_location h _ _) (by decide)
      (fun s hs => ne_step_of_mem_location h hs), Except.ok.injEq] at hjoin
    have hshape : b.scheme ++ "://" ++ (b.authority ++ ('/' : CodePoint) ::
        locationPath repository.path count ++ "?" ++ "state=x") =
          b.scheme ++ "://" ++ (b.authority ++ "/v2/" ++ resolvedPath repository.path ++ "/" ++
            ("blobs/uploads/" ++ Decimal.ofNat count ++ "?state=x")) := by
      have hversion : Text.ofString "/v2/" = ('/' : CodePoint) :: "v2/" := rfl
      have huploads : Text.ofString "/blobs/uploads/" = "/" ++ "blobs/uploads/" := rfl
      have hquery : Text.ofString "?state=x" = "?" ++ "state=x" := rfl
      simp [locationPath, hversion, huploads, hquery]
    have hhost : ∀ c ∈ b.authority, c ≠ '/' ∧ endsPath c = false := by
      intro c hc
      have hends := hauthority c hc
      simp only [Url.endsAuthority, Bool.or_eq_false_iff, decide_eq_false_iff_not] at hends
      simp only [endsPath, Bool.or_eq_false_iff, decide_eq_false_iff_not]
      exact ⟨hends.1.1, hends.1.2, hends.2⟩
    have hletter {d : CodePoint} (hd : d.isAsciiLower = false) : d ∉ b.scheme := by
      intro hc
      rw [hbscheme] at hc
      rw [hlower d hc] at hd
      cases hd
    have htarget := @target?_eq b.scheme b.authority (resolvedPath repository.path)
      ("blobs/uploads/" ++ Decimal.ofNat count ++ "?state=x") (hletter (by decide))
      (hletter (by decide)) hhost fun c hc => endsPath_resolvedPath h hc
    rw [← hshape, hjoin, split_upload] at htarget
    refine ⟨_, _, htarget, query?_of_uploads (Text.split_ne_nil _ _) _, ?_⟩
    rw [uploadName?, hb]
    have hslash : ("/" : Text) = [CodePoint.ofChar '/'] := rfl
    simp [Except.toOption, hslash, Text.join_split]

end Registry
end Signet
