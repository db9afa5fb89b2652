import Precis.Proofs.Host.Name

/-!
# Which hosts are in normal form

The host of a destination should be as the table of hosts has it (`IsNormal`): not empty, in small
letters and without `www.` in front. Small letters it always has. One `www.` is dropped after the
host was found, and what is left is not looked at again: so nothing is left of the host `www.`, and
of two `www.` one stays. `extract_cases` says of every address that there is no other way to miss
the normal form.

What it rests on is that no reading of an address finds an empty host (`ofUrl_ne_nil`).
-/

namespace Precis.Host

open Text

/-- What is dropped from the start of a host. -/
def wwwDot : List Char := "www.".toList

/-- A host as the table of hosts has it. -/
structure IsNormal (host : List Char) : Prop where
  ne_nil : host ≠ []
  small : ∀ c ∈ host, c.isUpper = false
  bare : ¬ wwwDot <+: host

/-- The host that is found, in small letters, before `www.` is dropped. -/
def fullHost (address : List Char) : Option (List Char) :=
  ((ofUrl address).or (ofUrl ("https://".toList ++ address))).map (·.map Char.toLower)

theorem ofAddress_eq (address : List Char) :
    ofAddress address = (fullHost address).map withoutWww := by
  unfold ofAddress fullHost
  rw [Option.map_map]
  rfl

/-! ## No host is empty -/

theorem joinLabels_ne_nil {l m : List Char} (ls : List (List Char)) :
    joinLabels (l :: m :: ls) ≠ [] := by
  unfold joinLabels
  rw [List.intercalate_cons_cons]
  simp

theorem asciiDomain_ne_nil {s domain : List Char} (h : asciiDomain s = some domain) :
    domain ≠ [] := by
  have hchecked : ∀ found : List Char,
      (if found.isEmpty || found.any isForbidden then none else some found) = some domain →
        domain ≠ [] := by
    intro found hfound
    split at hfound
    · cases hfound
    · rename_i hallowed
      cases hfound
      rintro rfl
      exact hallowed rfl
  unfold asciiDomain at h
  dsimp only at h
  split at h
  · exact hchecked _ h
  · obtain ⟨found, _, h⟩ := Option.bind_eq_some_iff.1 h
    exact hchecked found h

theorem webHost_ne_nil {s host : List Char} (h : webHost s = some host) : host ≠ [] := by
  unfold webHost at h
  split at h
  · -- an address of eight groups stands in brackets
    unfold Ipv6.normal? at h
    split at h
    · split at h
      · obtain ⟨groups, _, rfl⟩ := Option.map_eq_some_iff.1 h
        simp
      · cases h
    · cases h
  · obtain ⟨text, _, h⟩ := Option.bind_eq_some_iff.1 h
    obtain ⟨domain, hdomain, h⟩ := Option.bind_eq_some_iff.1 h
    split at h
    · -- an address of four bytes has dots
      obtain ⟨numbers, _, h⟩ := Option.bind_eq_some_iff.1 h
      obtain ⟨value, _, h⟩ := Option.bind_eq_some_iff.1 h
      cases h
      exact joinLabels_ne_nil _
    · cases h
      exact asciiDomain_ne_nil hdomain

theorem percentEncode_ne_nil {s : List Char} (h : s ≠ []) : percentEncode s ≠ [] := by
  obtain ⟨c, rest, rfl⟩ := List.exists_cons_of_ne_nil h
  unfold percentEncode
  rw [List.flatMap_cons]
  intro hnil
  have hfirst := (List.append_eq_nil_iff.1 hnil).1
  split at hfirst
  · -- each character has a byte, and each byte is escaped to something
    have hbytes : encodeChar c ≠ [] := by
      unfold encodeChar
      dsimp only
      repeat' split
      all_goals simp
    obtain ⟨b, others, hcons⟩ := List.exists_cons_of_ne_nil hbytes
    rw [hcons, List.flatMap_cons] at hfirst
    simp [escapeByte] at hfirst
  · simp at hfirst

theorem hostOfAuthority_ne_nil {scheme : Scheme} {s host : List Char}
    (h : hostOfAuthority scheme s = some host) : host ≠ [] := by
  unfold hostOfAuthority at h
  dsimp only at h
  split at h
  · cases h
  · rename_i hparts
    split at h
    · unfold otherHost at h
      split at h
      · rename_i hbracket
        have hweb : webHost (hostAndRest false (afterUser s)).1 = some host := by
          unfold webHost
          rw [if_pos hbracket]
          exact h
        exact webHost_ne_nil hweb
      · split at h
        · cases h
        · cases h
          apply percentEncode_ne_nil
          intro hnil
          rw [hnil] at hparts
          exact hparts rfl
    · exact webHost_ne_nil h

theorem fileHost_ne_nil {s host : List Char} (h : fileHost s = some host) : host ≠ [] := by
  unfold fileHost at h
  split at h
  · split at h
    · dsimp only at h
      split at h
      · cases h
      · obtain ⟨found, hfound, h⟩ := Option.bind_eq_some_iff.1 h
        split at h
        · cases h
        · cases h
          exact webHost_ne_nil hfound
    · cases h
  · cases h

/-- The host of a url is never empty. -/
theorem ofUrl_ne_nil {s host : List Char} (h : ofUrl s = some host) : host ≠ [] := by
  unfold ofUrl at h
  obtain ⟨⟨scheme, rest⟩, _, h⟩ := Option.bind_eq_some_iff.1 h
  cases scheme with
  | file => exact fileHost_ne_nil h
  | web => exact hostOfAuthority_ne_nil h
  | other =>
    dsimp only at h
    split at h
    · exact hostOfAuthority_ne_nil h
    · cases h

/-- The full host is in small letters and not empty. -/
theorem small_fullHost {address full : List Char} (h : fullHost address = some full) :
    full ≠ [] ∧ ∀ c ∈ full, c.isUpper = false := by
  obtain ⟨host, hhost, rfl⟩ := Option.map_eq_some_iff.1 h
  constructor
  · have hne : host ≠ [] := by
      rcases Option.or_eq_some_iff.1 hhost with hfirst | ⟨_, hagain⟩
      · exact ofUrl_ne_nil hfirst
      · exact ofUrl_ne_nil hagain
    simpa using hne
  · intro c hc
    obtain ⟨a, _, rfl⟩ := List.mem_map.1 hc
    exact isUpper_toLower a

/-! ## What is left of it -/

/-- One `www.` is dropped where there is one. -/
theorem withoutWww_cases (full : List Char) :
    full = wwwDot ++ withoutWww full ∨ withoutWww full = full ∧ ¬ wwwDot <+: full := by
  unfold withoutWww
  split
  · exact Or.inl rfl
  · rename_i hother
    refine Or.inr ⟨rfl, ?_⟩
    rintro ⟨rest, rfl⟩
    exact hother rest rfl

/-- Nothing is left of `www.` alone. -/
theorem withoutWww_eq_nil_iff {full : List Char} (hne : full ≠ []) :
    withoutWww full = [] ↔ full = wwwDot := by
  rcases withoutWww_cases full with hwww | ⟨hsame, hbare⟩
  · constructor
    · intro hnil
      rw [hwww, hnil, List.append_nil]
    · rintro rfl
      exact List.append_right_eq_self.1 hwww.symm
  · constructor
    · intro hnil
      exact absurd (hsame.symm.trans hnil) hne
    · rintro rfl
      exact absurd (List.prefix_refl _) hbare

/-- Of two `www.` one is left. -/
theorem www_prefix_withoutWww_iff (full : List Char) :
    wwwDot <+: withoutWww full ↔ wwwDot ++ wwwDot <+: full := by
  rcases withoutWww_cases full with hwww | ⟨hsame, hbare⟩
  · have hboth : wwwDot ++ wwwDot <+: wwwDot ++ withoutWww full ↔ wwwDot <+: withoutWww full :=
      List.prefix_append_right_inj wwwDot
    rw [← hwww] at hboth
    exact hboth.symm
  · rw [hsame]
    constructor
    · intro hprefix
      exact absurd hprefix hbare
    · intro hprefix
      exact absurd ((List.prefix_append _ _).trans hprefix) hbare

/-- What is left is part of the full host. -/
theorem withoutWww_suffix (full : List Char) : withoutWww full <:+ full := by
  rcases withoutWww_cases full with hwww | ⟨hsame, _⟩
  · exact ⟨wwwDot, hwww.symm⟩
  · exact ⟨[], hsame⟩

/-- An address either has no host, which is a problem of validation, or its host is the full one
less one `www.`, in small letters. It is in normal form unless the full host is `www.`, of which
nothing is left, or starts with `www.www.`, of which one `www.` is left. -/
theorem extract_cases (raw : String) :
    (fullHost (trimmed raw.toList) = none ∧
      extract raw = .error
        (.stated .validation "cannot extract host"
          { details := some (trim raw), source := some "domain_rate_limiter" })) ∨
    ∃ full host, fullHost (trimmed raw.toList) = some full ∧
      extract raw = .ok (String.ofList host) ∧
      (full = wwwDot ++ host ∨ host = full ∧ ¬ wwwDot <+: full) ∧
      (∀ c ∈ host, c.isUpper = false) ∧
      (host = [] ↔ full = wwwDot) ∧ (wwwDot <+: host ↔ wwwDot ++ wwwDot <+: full) ∧
      (IsNormal host ↔ full ≠ wwwDot ∧ ¬ wwwDot ++ wwwDot <+: full) := by
  have haddress := ofAddress_eq (trimmed raw.toList)
  cases hfull : fullHost (trimmed raw.toList) with
  | none =>
    left
    refine ⟨rfl, ?_⟩
    rw [hfull] at haddress
    unfold extract
    dsimp only
    rw [haddress]
    rfl
  | some full =>
    right
    obtain ⟨hne, hsmall⟩ := small_fullHost hfull
    rw [hfull] at haddress
    have hextract : extract raw = .ok (String.ofList (withoutWww full)) := by
      unfold extract
      dsimp only
      rw [haddress]
      rfl
    have hsmall' : ∀ c ∈ withoutWww full, c.isUpper = false := by
      intro c hc
      exact hsmall c ((withoutWww_suffix full).subset hc)
    have hnil := withoutWww_eq_nil_iff hne
    have hwww := www_prefix_withoutWww_iff full
    refine ⟨full, withoutWww full, rfl, hextract, withoutWww_cases full, hsmall', hnil, hwww, ?_⟩
    constructor
    · rintro ⟨hhost, _, hbare⟩
      exact ⟨fun h => hhost (hnil.2 h), fun h => hbare (hwww.2 h)⟩
    · rintro ⟨hhost, hbare⟩
      exact ⟨fun h => hhost (hnil.1 h), hsmall', fun h => hbare (hwww.1 h)⟩

/-- Addresses whose hosts are not in normal form: one is empty, and one starts with `www.`. -/
theorem not_isNormal_extract :
    (extract "https://www./" = .ok (String.ofList []) ∧ ¬ IsNormal []) ∧
      extract "www.www.example.com" = .ok (String.ofList "www.example.com".toList) ∧
        ¬ IsNormal "www.example.com".toList := by
  refine ⟨⟨rfl, ?_⟩, rfl, ?_⟩
  · intro h
    exact h.ne_nil rfl
  · intro h
    exact h.bare (by decide)

end Precis.Host
