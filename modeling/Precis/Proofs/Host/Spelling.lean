import Mathlib.Data.List.TakeWhile
import Precis.Proofs.Host.Name

/-!
# Spellings of a host

A host may be written in small and capital letters, after `http://`, `https://` or nothing, with
`www.` before it, and with a port and a path behind it. However it is written, the same host is
found: `Spelling.extract_text`.

Without a scheme the address is read twice. A port makes what stands before it look like a scheme,
but what follows the colon is a digit, so the first reading finds no host (`ofUrl_of_bare`), and the
second reading is that of the same address after `https://` (`ofUrl_of_web`).
-/

namespace Precis.Host

open Text

/-! ## The parts of an address -/

/-- A colon and a number that fits a port, or nothing. -/
def PortText (s : List Char) : Prop :=
  s = [] ∨ ∃ digits, s = ':' :: digits ∧ digits ≠ [] ∧ (∀ c ∈ digits, c.isDigit = true) ∧
    ofDigits digits ≤ 65535

/-- A slash and printable characters after it, or nothing. -/
def PathText (s : List Char) : Prop :=
  s = [] ∨ ∃ rest, s = '/' :: rest ∧ ∀ c ∈ rest, isPrintable c = true

/-- A printable character other than the space. -/
def isVisible (c : Char) : Bool := isPrintable c && c != ' '

theorem of_isVisible {p : Char → Prop}
    (hall : ∀ n < 128, isVisible (Char.ofNat n) = true → p (Char.ofNat n)) {c : Char}
    (h : isVisible c = true) : p c := by
  have hascii : c.toNat < 128 := by
    rw [isVisible, isPrintable, Bool.and_eq_true, Bool.and_eq_true, decide_eq_true_iff,
      decide_eq_true_iff] at h
    omega
  exact of_ascii (p := fun c => isVisible c = true → p c) hall hascii h

/-- Dropping characters from both ends of an address leaves all but an end of its path. -/
theorem dropEnds {p : Char → Bool} {stem path : List Char} (hne : stem ≠ [])
    (hstem : ∀ c ∈ stem, p c = false) (hslash : p '/' = false) (hpath : PathText path) :
    ∃ path', PathText path' ∧
      (((stem ++ path).dropWhile p).reverse.dropWhile p).reverse = stem ++ path' := by
  have hfront : (stem ++ path).dropWhile p = stem ++ path := by
    cases stem with
    | nil => exact absurd rfl hne
    | cons c rest =>
      rw [List.cons_append, List.dropWhile_cons_of_neg]
      rw [hstem c List.mem_cons_self]
      exact Bool.false_ne_true
  have hkeep : ∀ c s, p c = false → (c :: s).dropWhile p = c :: s := by
    intro c s hc
    rw [List.dropWhile_cons_of_neg]
    rw [hc]
    exact Bool.false_ne_true
  rw [hfront, List.reverse_append]
  rcases hpath with rfl | ⟨rest, rfl, hrest⟩
  · -- without a path only the stem is trimmed, and it ends in no blank
    refine ⟨[], Or.inl rfl, ?_⟩
    rw [List.reverse_nil, List.nil_append, List.append_nil]
    have hlast : stem.reverse.dropWhile p = stem.reverse := by
      cases hrev : stem.reverse with
      | nil => rfl
      | cons c s =>
        have hmem : c ∈ stem := List.mem_reverse.1 (hrev ▸ List.mem_cons_self)
        exact hkeep c s (hstem c hmem)
    rw [hlast, List.reverse_reverse]
  · -- what is dropped ends before the slash of the path
    have hkept := List.dropWhile_suffix (l := rest.reverse) p
    refine ⟨'/' :: (rest.reverse.dropWhile p).reverse, Or.inr ⟨_, rfl, ?_⟩, ?_⟩
    · intro c hc
      exact hrest c (List.mem_reverse.1 (hkept.subset (List.mem_reverse.1 hc)))
    · rw [List.reverse_cons, List.append_assoc, List.dropWhile_append]
      split
      · rename_i hempty
        rw [List.isEmpty_iff.1 hempty, List.singleton_append, hkeep _ _ hslash]
        simp
      · simp

/-- What is printable is left when an address is cleaned. -/
theorem cleaned_append {stem path : List Char} (hne : stem ≠ [])
    (hstem : ∀ c ∈ stem, isVisible c = true) (hpath : PathText path) :
    ∃ path', PathText path' ∧ cleaned (stem ++ path) = stem ++ path' := by
  have hblank : ∀ c ∈ stem, decide (c.toNat ≤ 0x20) = false :=
    fun c hc => of_isVisible (p := fun c => decide (c.toNat ≤ 0x20) = false)
      (by decide) (hstem c hc)
  obtain ⟨path', hpath', heq⟩ := dropEnds hne hblank (by decide) hpath
  refine ⟨path', hpath', ?_⟩
  rw [cleaned]
  dsimp only
  rw [heq]
  apply List.filter_eq_self.2
  have hprintable : ∀ c, isPrintable c = true →
      (!(c == '\t' || c == '\n' || c == '\r')) = true := by
    intro c hc
    rw [isPrintable, Bool.and_eq_true, decide_eq_true_iff, decide_eq_true_iff] at hc
    have hlt : c.toNat < 128 := by omega
    refine of_ascii (p := fun c => 0x20 ≤ c.toNat → (!(c == '\t' || c == '\n' || c == '\r')) = true)
      (by decide) hlt hc.1
  intro c hc
  rcases List.mem_append.1 hc with hc | hc
  · -- the characters of the stem are visible
    have hvisible := hstem c hc
    rw [isVisible, Bool.and_eq_true] at hvisible
    exact hprintable c hvisible.1
  · -- those of the path are printable
    rcases hpath' with rfl | ⟨rest, rfl, hrest⟩
    · cases hc
    · rcases List.mem_cons.1 hc with rfl | hc
      · rfl
      · exact hprintable c (hrest c hc)

/-- The same of blanks at the ends. -/
theorem trimmed_append {stem path : List Char} (hne : stem ≠ [])
    (hstem : ∀ c ∈ stem, isVisible c = true) (hpath : PathText path) :
    ∃ path', PathText path' ∧ trimmed (stem ++ path) = stem ++ path' := by
  have hblank : ∀ c ∈ stem, isBlank c = false :=
    fun c hc => of_isVisible (p := fun c => isBlank c = false) (by decide) (hstem c hc)
  exact dropEnds hne hblank (by decide) hpath

/-! ## The host of an authority -/

section Authority

variable {host port : List Char} {ls : List (List Char)} (hls : PlainLabels ls)
  (hhost : host.map Char.toLower = joinLabels ls) (hport : PortText port)

include hls hhost

theorem inName_host : ∀ c ∈ host, inName c = true := by
  intro c hc
  apply inName_of_toLower
  apply hls.inName_of_mem
  rw [← hhost]
  exact List.mem_map_of_mem hc

theorem host_ne_nil : host ≠ [] := by
  rintro rfl
  have hdot := hls.dot_mem
  rw [← hhost] at hdot
  cases hdot

/-- A domain of plain labels stays as it is, but for its capitals. -/
theorem asciiDomain_host : asciiDomain host = some (joinLabels ls) := by
  have hname := inName_host hls hhost
  have hascii : isAscii host = true := by
    rw [isAscii, List.all_eq_true]
    intro c hc
    exact decide_eq_true (toNat_lt_of_inName (hname c hc))
  have hencoded : ls.any isEncoded = false := by
    rw [List.any_eq_false]
    intro l hl hmark
    have hdash : '-' ∈ l := (List.isPrefixOf_iff_prefix.1 hmark).subset (by decide)
    exact absurd ((hls.plain l hl).2 _ hdash) (by decide)
  have hforbidden : (joinLabels ls).any isForbidden = false := by
    rw [List.any_eq_false]
    intro c hc
    exact of_inName (p := fun c => ¬ isForbidden c = true) (by decide) (hls.inName_of_mem c hc)
  have hfull : (joinLabels ls).isEmpty = false := by
    rw [List.isEmpty_eq_false_iff]
    intro hempty
    have hdot := hls.dot_mem
    rw [hempty] at hdot
    cases hdot
  rw [asciiDomain]
  simp only [hhost, hascii, hls.labels_eq, hencoded, Bool.not_false, Bool.and_self, if_true]
  show (if (joinLabels ls).isEmpty || (joinLabels ls).any isForbidden then none
    else some (joinLabels ls)) = _
  rw [hfull, hforbidden]
  rfl

theorem webHost_host : webHost host = some (joinLabels ls) := by
  have hname := inName_host hls hhost
  have hbracket : host.head? ≠ some '[' := by
    intro hhead
    exact absurd (hname _ (List.mem_of_head? hhead)) (by decide)
  have hpercent : host.contains '%' = false := by
    rw [List.contains_eq_mem, decide_eq_false_iff_not]
    intro hmem
    exact absurd (hname _ hmem) (by decide)
  rw [webHost, if_neg hbracket, percentDecode, hpercent]
  show (asciiDomain host).bind _ = _
  rw [asciiDomain_host hls hhost]
  show (if Ipv4.endsInNumber (joinLabels ls) then _ else _) = _
  rw [hls.not_endsInNumber]
  rfl

omit hls hhost in
theorem isPort_of_portText (hport : PortText port) : isPort port = true := by
  rcases hport with rfl | ⟨digits, rfl, _, hdigits, hle⟩
  · rfl
  · rw [isPort, List.takeWhile_eq_self_iff.2 hdigits, List.dropWhile_eq_nil_iff.2 hdigits,
      decide_eq_true hle]
    rfl

omit hls hhost in
/-- The host ends where the port begins. -/
theorem hostAndRest_append (hname : ∀ c ∈ host, inName c = true) (hport : PortText port) :
    hostAndRest false (host ++ port) = (host, port) := by
  induction host with
  | nil =>
    -- the host goes on until the colon or the end
    rcases hport with rfl | ⟨digits, rfl, _⟩
    · rfl
    · rfl
  | cons c rest ih =>
    rw [List.forall_mem_cons] at hname
    have hcolon : (c == ':') = false :=
      of_inName (p := fun c => (c == ':') = false) (by decide) hname.1
    have hopens : (c == '[') = false :=
      of_inName (p := fun c => (c == '[') = false) (by decide) hname.1
    rw [List.cons_append, hostAndRest, hcolon, hopens]
    simp only [Bool.false_and, Bool.false_eq_true, if_false, ite_self, ih hname.2]

include hport

/-- What holds of the characters of names and of the colon holds of a host with a port. -/
theorem of_mem_authority {p : Char → Prop}
    (hall : ∀ n < 128, inName (Char.ofNat n) = true → p (Char.ofNat n)) (hcolon : p ':') :
    ∀ c ∈ host ++ port, p c := by
  intro c hc
  rcases List.mem_append.1 hc with hc | hc
  · exact of_inName hall (inName_host hls hhost c hc)
  · rcases hport with rfl | ⟨digits, rfl, _, hdigits, _⟩
    · cases hc
    · rcases List.mem_cons.1 hc with rfl | hc
      · exact hcolon
      · have hname : inName c = true := by
          rw [inName, Char.isAlphanum, hdigits c hc, Bool.or_true]
          rfl
        exact of_inName hall hname

/-- A host with a port is visible. -/
theorem isVisible_authority : ∀ c ∈ host ++ port, isVisible c = true :=
  of_mem_authority hls hhost hport (p := fun c => isVisible c = true) (by decide) rfl

/-- The authority ends where the path begins. -/
theorem takeWhile_authority {path : List Char} (hpath : PathText path) :
    (host ++ port ++ path).takeWhile (fun c => !endsAuthority .web c) = host ++ port := by
  have hinside := of_mem_authority hls hhost hport (p := fun c => (!endsAuthority .web c) = true)
    (by decide) rfl
  rw [List.takeWhile_append_of_pos hinside]
  -- a path starts with a slash, which ends the authority
  rcases hpath with rfl | ⟨rest, rfl, _⟩
  · exact List.append_nil _
  · exact List.append_nil _

theorem hostOfAuthority_append : hostOfAuthority .web (host ++ port) = some (joinLabels ls) := by
  have hname := inName_host hls hhost
  have hnoUser : ∀ c ∈ (host ++ port).reverse, (c != '@') = true := fun c hc =>
    of_mem_authority hls hhost hport (p := fun c => (c != '@') = true) (by decide) rfl c
      (List.mem_reverse.1 hc)
  have huser : afterUser (host ++ port) = host ++ port := by
    rw [afterUser, List.takeWhile_eq_self_iff.2 hnoUser, List.reverse_reverse]
  have hempty : host.isEmpty = false := by
    rw [List.isEmpty_eq_false_iff]
    exact host_ne_nil hls hhost
  rw [hostOfAuthority, huser, hostAndRest_append hname hport]
  dsimp only
  rw [hempty, isPort_of_portText hport]
  exact webHost_host hls hhost

/-! ## Two readings -/

omit hls hhost hport in
/-- What stands before the first colon is read as a scheme if it can be one. -/
theorem schemeAt_append {word rest : List Char} {c : Char} (hword : ∀ c ∈ word, inScheme c = true)
    (hhead : word.head? = some c) :
    schemeAt (word ++ ':' :: rest)
      = if c.isAlpha then some (Scheme.of (word.map Char.toLower), rest) else none := by
  have hdrop : (word ++ ':' :: rest).dropWhile inScheme = ':' :: rest :=
    List.dropWhile_append_of_pos hword
  have htake : (word ++ ':' :: rest).takeWhile inScheme = word := by
    rw [List.takeWhile_append_of_pos hword]
    exact List.append_nil word
  have hfirst : (word ++ ':' :: rest).head? = some c := by
    rw [List.head?_append, hhead]
    rfl
  rw [schemeAt, hdrop, htake, hfirst]
  rfl

omit hls hhost hport in
theorem inName_of_web {word : List Char}
    (hword : word.map Char.toLower = "http".toList ∨ word.map Char.toLower = "https".toList) :
    ∀ c ∈ word, inName c = true := by
  intro c hc
  apply inName_of_toLower
  have hmem := List.mem_map_of_mem (f := Char.toLower) hc
  have hall : ∀ c ∈ "https".toList, inName c = true := List.all_eq_true.1 (by decide)
  rcases hword with hword | hword
  · rw [hword] at hmem
    exact hall _ ((by decide : "http".toList ⊆ "https".toList) hmem)
  · rw [hword] at hmem
    exact hall _ hmem

omit hls hhost hport in
/-- The scheme of the web is found before its colon. -/
theorem schemeAt_web {word : List Char}
    (hword : word.map Char.toLower = "http".toList ∨ word.map Char.toLower = "https".toList)
    (rest : List Char) : schemeAt (word ++ ':' :: rest) = some (.web, rest) := by
  have hletters := inName_of_web hword
  have hin : ∀ a ∈ word, inScheme a = true :=
    fun a ha => of_inName (p := fun a => inScheme a = true) (by decide) (hletters a ha)
  have hof : Scheme.of (word.map Char.toLower) = .web := by
    -- http and https are both web schemes
    rcases hword with hword | hword
    · rw [hword]
      decide
    · rw [hword]
      decide
  obtain ⟨c, hhead, hh⟩ : ∃ c, word.head? = some c ∧ c.toLower = 'h' := by
    rw [← Option.map_eq_some_iff, ← List.head?_map]
    rcases hword with hword | hword
    · rw [hword]
      rfl
    · rw [hword]
      rfl
  have hletter : c.isAlpha = true :=
    of_inName (p := fun c => c.toLower = 'h' → c.isAlpha = true) (by decide)
      (hletters c (List.mem_of_head? hhead)) hh
  rw [schemeAt_append hin hhead, if_pos hletter, hof]

/-- The host of an address of the web. -/
theorem ofUrl_of_web {word path : List Char}
    (hword : word.map Char.toLower = "http".toList ∨ word.map Char.toLower = "https".toList)
    (hpath : PathText path) :
    ofUrl (word ++ "://".toList ++ (host ++ port) ++ path) = some (joinLabels ls) := by
  have hvisible : ∀ a ∈ word ++ "://".toList ++ (host ++ port), isVisible a = true := by
    rw [List.forall_mem_append, List.forall_mem_append]
    refine ⟨⟨?_, List.all_eq_true.1 (by decide)⟩, isVisible_authority hls hhost hport⟩
    intro a ha
    exact of_inName (p := fun a => isVisible a = true) (by decide) (inName_of_web hword a ha)
  obtain ⟨path', hpath', hcleaned⟩ := cleaned_append (by simp) hvisible hpath
  have hsplit : word ++ "://".toList ++ (host ++ port) ++ path'
      = word ++ ':' :: ('/' :: '/' :: (host ++ port ++ path')) := by simp
  -- the slashes before the host are passed over, and the path behind it is cut off
  have hslashes : ('/' :: '/' :: (host ++ port ++ path')).dropWhile isSlash = host ++
      port ++ path' := by
    have hname := inName_host hls hhost
    obtain ⟨a, others, rfl⟩ := List.exists_cons_of_ne_nil (host_ne_nil hls hhost)
    have ha : isSlash a = false :=
      of_inName (p := fun a => isSlash a = false) (by decide) (hname a List.mem_cons_self)
    rw [List.dropWhile_cons_of_pos rfl, List.dropWhile_cons_of_pos rfl, List.cons_append,
      List.cons_append, List.dropWhile_cons_of_neg]
    rw [ha]
    exact Bool.false_ne_true
  rw [ofUrl, hcleaned, hsplit, schemeAt_web hword]
  show hostOfAuthority .web
    ((('/' :: '/' :: (host ++ port ++ path')).dropWhile isSlash).takeWhile _) = _
  rw [hslashes, takeWhile_authority hls hhost hport hpath', hostOfAuthority_append hls hhost hport]

omit hhost hport in
/-- A name with a dot is no scheme that matters. -/
theorem schemeOf_name : Scheme.of (joinLabels ls) = .other := by
  have hdot := hls.dot_mem
  rw [Scheme.of]
  generalize joinLabels ls = name at hdot
  have hweb : webSchemes.contains name = false := by
    rw [List.contains_eq_mem, decide_eq_false_iff_not]
    intro hmem
    have hnone : ∀ s ∈ webSchemes, '.' ∉ s := by decide
    exact hnone name hmem hdot
  have hfile : name ≠ "file".toList := by
    rintro rfl
    exact absurd hdot (by decide)
  rw [hweb, if_neg hfile]
  rfl

omit hls hhost hport in
/-- Without a colon there is no scheme. -/
theorem schemeAt_of_path {path : List Char} (hin : ∀ c ∈ host, inScheme c = true)
    (hpath : PathText path) : schemeAt (host ++ path) = none := by
  rw [schemeAt, List.dropWhile_append_of_pos hin]
  rcases hpath with rfl | ⟨rest, rfl, _⟩
  · -- what follows the letters is the end or a slash, and no colon
    rw [List.dropWhile_nil]
    split
    · rename_i heq
      cases heq
    · rfl
  · rw [List.dropWhile_cons_of_neg (by decide)]
    split
    · rename_i heq
      cases heq
    · rfl

/-- Without a scheme the first reading finds no host. -/
theorem ofUrl_of_bare {path : List Char} (hpath : PathText path) :
    ofUrl (host ++ port ++ path) = none := by
  have hname := inName_host hls hhost
  have hin : ∀ a ∈ host, inScheme a = true :=
    fun a ha => of_inName (p := fun a => inScheme a = true) (by decide) (hname a ha)
  obtain ⟨a, others, hcons⟩ := List.exists_cons_of_ne_nil (host_ne_nil hls hhost)
  have hne : host ++ port ≠ [] := by
    rw [hcons]
    simp
  obtain ⟨path', hpath', hcleaned⟩ :=
    cleaned_append hne (isVisible_authority hls hhost hport) hpath
  rw [ofUrl, hcleaned]
  rcases hport with rfl | ⟨digits, rfl, hdigits⟩
  · rw [List.append_nil, schemeAt_of_path hin hpath']
    rfl
  · -- the host looks like a scheme, but one of no kind that matters, and a digit follows the colon
    have hsplit : host ++ ':' :: digits ++ path' = host ++ ':' :: (digits ++ path') := by simp
    obtain ⟨d, more, rfl⟩ := List.exists_cons_of_ne_nil hdigits.1
    have hslash : d ≠ '/' := by
      rintro rfl
      exact absurd (hdigits.2.1 _ List.mem_cons_self) (by decide)
    have hhead : host.head? = some a := by rw [hcons]; rfl
    rw [hsplit, schemeAt_append hin hhead, hhost, schemeOf_name hls]
    -- a name that starts with a letter reads as a scheme, and any other one as none
    by_cases hletter : a.isAlpha = true
    · rw [if_pos hletter, List.cons_append]
      dsimp only [bind, Option.bind]
      split
      · rename_i heq
        exact absurd (List.cons.inj heq).1 hslash
      · rfl
    · rw [if_neg hletter]
      rfl

end Authority

/-! ## Domains and their spellings -/

end Precis.Host

namespace Precis

open Host Text

/-- A domain of plain labels that does not start with `www`. -/
structure DomainName where
  labels : List (List Char)
  plain : PlainLabels labels
  bare : labels.head?.map (·.map Char.toLower) ≠ some "www".toList

namespace DomainName

variable (d : DomainName)

/-- The domain in small letters. -/
def small : List Char := (joinLabels d.labels).map Char.toLower

/-- The host that addresses of the domain have. -/
def host : String := String.ofList d.small

theorem small_eq : d.small = joinLabels (d.labels.map (·.map Char.toLower)) :=
  map_joinLabels rfl d.labels

theorem toLower_small : d.small.map Char.toLower = d.small := by
  rw [small, List.map_map]
  apply List.map_congr_left
  intro c hc
  exact of_inName (p := fun c => c.toLower.toLower = c.toLower) (by decide)
    (d.plain.inName_of_mem c hc)

/-- There is no `www.` to drop. -/
theorem withoutWww_small : withoutWww d.small = d.small := by
  unfold withoutWww
  split
  · -- then the first label would be `www`
    rename_i rest heq
    have hcut : Host.labels d.small = "www".toList :: Host.labels rest := by
      rw [heq]
      exact cutAt_append (s := "www".toList) (by simp) rfl
    rw [small_eq, d.plain.small.labels_eq] at hcut
    have hfirst := congrArg List.head? hcut
    rw [List.head?_map] at hfirst
    exact absurd hfirst d.bare
  · rfl

end DomainName

/-- A way to write the address of a domain: in letters of either case, with or without a scheme and
`www.` in front, a port and a path behind. -/
structure Spelling (d : DomainName) where
  scheme : Option (List Char)
  www : Option (List Char)
  name : List Char
  port : List Char
  path : List Char
  scheme_web : ∀ word ∈ scheme,
    word.map Char.toLower = "http".toList ∨ word.map Char.toLower = "https".toList
  www_small : ∀ word ∈ www, word.map Char.toLower = "www".toList
  name_small : name.map Char.toLower = d.small
  port_text : PortText port
  path_text : PathText path

namespace Spelling

variable {d : DomainName} (s : Spelling d)

/-- The host as it is written. -/
def written : List Char := s.www.elim s.name fun word => word ++ '.' :: s.name

/-- What stands before the path. -/
def stem : List Char := s.scheme.elim [] (· ++ "://".toList) ++ (s.written ++ s.port)

/-- The address. -/
def text : String := String.ofList (s.stem ++ s.path)

/-- The labels of the host in small letters. -/
def labels : List (List Char) :=
  s.www.elim (d.labels.map (·.map Char.toLower)) fun _ =>
    "www".toList :: d.labels.map (·.map Char.toLower)

theorem plain_labels : PlainLabels s.labels := by
  rw [labels]
  cases s.www with
  | none => exact d.plain.small
  | some _ => exact d.plain.small.cons (by decide) (List.all_eq_true.1 (by decide))

theorem toLower_written : s.written.map Char.toLower = joinLabels s.labels := by
  have hname := s.name_small
  have hwww := s.www_small
  rw [d.small_eq] at hname
  rw [written, labels]
  cases hw : s.www with
  | none => exact hname
  | some word =>
    have hsmall := hwww word hw
    show (word ++ '.' :: s.name).map Char.toLower = joinLabels ("www".toList :: _)
    rw [joinLabels_cons d.plain.small.ne_nil, List.map_append, List.map_cons, hname, hsmall]
    rfl

/-- A `www.` in front is dropped. -/
theorem withoutWww_labels : withoutWww ((joinLabels s.labels).map Char.toLower) = d.small := by
  rw [labels]
  cases s.www with
  | none =>
    -- without a prefix there is nothing to drop
    show withoutWww ((joinLabels (d.labels.map (·.map Char.toLower))).map Char.toLower) = d.small
    rw [← d.small_eq, d.toLower_small, d.withoutWww_small]
  | some _ =>
    -- the prefix is dropped, and the domain has none of its own
    show withoutWww
      ((joinLabels ("www".toList :: d.labels.map (·.map Char.toLower))).map Char.toLower) = d.small
    rw [joinLabels_cons d.plain.small.ne_nil, ← d.small_eq, List.map_append, List.map_cons,
      d.toLower_small]
    rfl

theorem isVisible_stem : ∀ c ∈ s.stem, isVisible c = true := by
  rw [stem, List.forall_mem_append]
  refine ⟨?_, isVisible_authority s.plain_labels s.toLower_written s.port_text⟩
  have hweb := s.scheme_web
  cases hscheme : s.scheme with
  | none =>
    intro c hc
    cases hc
  | some word =>
    show ∀ c ∈ word ++ "://".toList, isVisible c = true
    rw [List.forall_mem_append]
    refine ⟨?_, List.all_eq_true.1 (by decide)⟩
    intro c hc
    exact of_inName (p := fun c => isVisible c = true) (by decide)
      (inName_of_web (hweb word hscheme) c hc)

theorem stem_ne_nil : s.stem ≠ [] := by
  intro hnil
  have hauthority := (List.append_eq_nil_iff.1 hnil).2
  exact host_ne_nil s.plain_labels s.toLower_written (List.append_eq_nil_iff.1 hauthority).1

theorem ofAddress_stem {path : List Char} (hpath : PathText path) :
    ofAddress (s.stem ++ path) = some d.small := by
  have hls := s.plain_labels
  have hwritten := s.toLower_written
  have hweb := s.scheme_web
  -- one of the two readings finds the host as it is written, in small letters
  have hfound : (ofUrl (s.stem ++ path)).or (ofUrl ("https://".toList ++ (s.stem ++ path)))
      = some (joinLabels s.labels) := by
    rw [stem]
    cases hscheme : s.scheme with
    | none =>
      -- what is written without a scheme is read again with one
      have hsecure : "https".toList.map Char.toLower = "http".toList ∨
          "https".toList.map Char.toLower = "https".toList := Or.inr (by decide)
      have hagain := ofUrl_of_web hls hwritten s.port_text hsecure hpath
      show (ofUrl (s.written ++ s.port ++ path)).or
        (ofUrl ("https".toList ++ "://".toList ++ (s.written ++ s.port ++ path))) = _
      rw [ofUrl_of_bare hls hwritten s.port_text hpath, Option.none_or, ← List.append_assoc]
      exact hagain
    | some word =>
      have hfirst := ofUrl_of_web hls hwritten s.port_text (hweb word hscheme) hpath
      show (ofUrl (word ++ "://".toList ++ (s.written ++ s.port) ++ path)).or _ = _
      rw [hfirst, Option.some_or]
  rw [ofAddress, hfound, Option.map_some, s.withoutWww_labels]

/-- However an address of a domain is written, its host is the domain in small letters. -/
theorem extract_text : extract s.text = .ok d.host := by
  obtain ⟨path, hpath, htrimmed⟩ := trimmed_append s.stem_ne_nil s.isVisible_stem s.path_text
  have haddress : trimmed s.text.toList = s.stem ++ path := by
    rw [text, String.toList_ofList]
    exact htrimmed
  rw [extract, haddress, s.ofAddress_stem hpath]
  rfl

end Spelling

example : extract "Www.Example.COM:080/a://b " = .ok "example.com" := by rfl

end Precis
