import Mathlib.Data.List.Dedup
import Precis.Proofs.Host.Spelling
import Precis.Proofs.Table
import Precis.Rate.Destinations

/-!
# One limiter for each domain

A limiter is made when its host is first called and stays as it is, so all callers of a host get the
same one (`limiterFor_ok`). Limiters bear the names of their hosts, so no two hosts share one
(`Named`). With `Spelling.extract_text` this holds of domains, however their addresses are written:
`one_limiter_per_domain`.
-/

namespace Precis

/-- What a caller gets: the host of its address and the limiter of that host. -/
abbrev Assigned := String × Limiter Float

namespace Destinations

/-- Addresses are called one after another, each at its time. -/
def limitersFor (d : Destinations) : List (String × Nat) →
    Except Problem (List Assigned × Destinations)
  | [] => .ok ([], d)
  | (address, now) :: rest => do
    let (host, l, d) ← d.limiterFor address now
    let (got, d) ← d.limitersFor rest
    return ((host, l) :: got, d)

/-- Limiters bear the names of their hosts, and are listed by host. -/
structure Named (d : Destinations) : Prop where
  ordered : d.limiters.Ordered
  label : ∀ host l, d.limiters.get? host = some l → l.label = host

theorem named_new (settings : RateSettings) (jitter : Jitter) :
    Named { settings, jitter } := by
  constructor
  · exact Table.ordered_empty
  · intro host l hget
    cases hget

/-- What a caller leaves: the limiters there were, and one for its host. -/
structure Served (before after : Destinations) (host : String) (l : Limiter Float) : Prop where
  found : after.limiters.get? host = some l
  kept : ∀ other l, before.limiters.get? other = some l → after.limiters.get? other = some l
  new : ∀ other, (after.limiters.get? other).isSome ↔
    other = host ∨ (before.limiters.get? other).isSome

/-- A call of an address that has a host is served. -/
theorem limiterFor_ok {d : Destinations} {address host : String} (hd : d.Named)
    (hhost : Host.extract address = .ok host) (now : Nat) :
    ∃ l after, d.limiterFor address now = .ok (host, l, after) ∧ Served d after host l ∧
      after.Named := by
  have hplace : d.settings.destination address = .ok { host, tier := d.settings.tierOf host } := by
    rw [RateSettings.destination, hhost]
    rfl
  rw [limiterFor, hplace]
  simp only [Except.map]
  cases hget : d.limiters.get? host with
  | some l =>
    -- the host has a limiter, and nothing changes
    refine ⟨l, d, rfl, ⟨hget, fun _ _ h => h, ?_⟩, hd⟩
    intro other
    constructor
    · exact Or.inr
    · rintro (rfl | h)
      · rw [hget]
        rfl
      · exact h
  | none =>
    -- the host gets a limiter; those of other hosts stay
    refine ⟨d.fresh { host, tier := d.settings.tierOf host } now, d.keep host _, rfl,
      ⟨?_, ?_, ?_⟩, ?_, ?_⟩
    · rw [keep, Table.get?_insert, if_pos rfl]
    · intro other l hother
      have hne : host ≠ other := by
        rintro rfl
        rw [hget] at hother
        cases hother
      rw [keep, Table.get?_insert, if_neg hne]
      exact hother
    · intro other
      rw [keep, Table.get?_insert]
      by_cases hne : host = other
      · rw [if_pos hne]
        exact iff_of_true rfl (Or.inl hne.symm)
      · rw [if_neg hne]
        exact ⟨Or.inr, fun h => h.resolve_left (Ne.symm hne)⟩
    · exact hd.ordered.insert _ _
    · intro other l hother
      -- a label is that of the new limiter or of one there was
      rw [keep, Table.get?_insert] at hother
      split at hother
      · rename_i heq
        cases hother
        exact heq
      · exact hd.label other l hother

/-- What a sequence of callers leaves: each host called has one limiter, which all its callers
got. -/
structure Assigns (before after : Destinations) (hosts : List String)
    (got : List Assigned) : Prop where
  hosts_eq : got.map (·.1) = hosts
  found : ∀ e ∈ got, after.limiters.get? e.1 = some e.2
  kept : ∀ host l, before.limiters.get? host = some l → after.limiters.get? host = some l
  new : ∀ host, (after.limiters.get? host).isSome ↔
    host ∈ hosts ∨ (before.limiters.get? host).isSome

theorem limitersFor_ok (calls : List (String × Nat)) :
    ∀ {d : Destinations} {hosts : List String}, d.Named →
      List.Forall₂ (fun call host => Host.extract call.1 = .ok host) calls hosts →
      ∃ got after, d.limitersFor calls = .ok (got, after) ∧ Assigns d after hosts got ∧
      after.Named := by
  induction calls with
  | nil =>
    intro d hosts hd hhosts
    cases hhosts
    refine ⟨[], d, rfl, ⟨rfl, ?_, fun _ _ h => h, ?_⟩, hd⟩
    · intro e he
      cases he
    · intro host
      rw [or_iff_right List.not_mem_nil]
  | cons call rest ih =>
    intro d hosts hd hhosts
    obtain ⟨address, now⟩ := call
    cases hhosts with
    | cons hhost hrest =>
      rename_i host hosts
      obtain ⟨l, middle, hfirst, hserved, hmiddle⟩ := limiterFor_ok hd hhost now
      obtain ⟨got, after, hothers, hassigns, hafter⟩ := ih hmiddle hrest
      refine ⟨(host, l) :: got, after, ?_, ⟨?_, ?_, ?_, ?_⟩, hafter⟩
      · simp only [limitersFor, hfirst, hothers, bind, Except.bind, pure, Except.pure]
      · rw [List.map_cons, hassigns.hosts_eq]
      · -- what the first caller got is still there after the others
        rw [List.forall_mem_cons]
        exact ⟨hassigns.kept host l hserved.found, hassigns.found⟩
      · intro other l' hother
        exact hassigns.kept other l' (hserved.kept other l' hother)
      · intro other
        rw [hassigns.new, hserved.new, List.mem_cons, or_left_comm, or_assoc]

/-- The keys of the limiters are the hosts that were called, each once. -/
theorem count_of_assigns {settings : RateSettings} {jitter : Jitter} {after : Destinations}
    {hosts : List String} {got : List Assigned} (hafter : after.Named)
    (h : Assigns { settings, jitter } after hosts got) : after.count = hosts.dedup.length := by
  have hmem : ∀ host, host ∈ after.limiters.entries.map (·.1) ↔ host ∈ hosts.dedup := by
    intro host
    rw [hafter.ordered.mem_keys_iff, h.new, List.mem_dedup]
    exact or_iff_left Bool.false_ne_true
  have hnodup := hafter.ordered.nodup_keys
  have hperm := (List.perm_ext_iff_of_nodup hnodup hosts.nodup_dedup).2 hmem
  rw [count, Table.size, ← hperm.length_eq, List.length_map]

end Destinations

/-- A call of a domain, whose address is written in one of many ways. -/
structure DomainCall where
  domain : DomainName
  spelling : Spelling domain
  time : Nat

/-- The address that is called and the time. -/
def DomainCall.request (c : DomainCall) : String × Nat := (c.spelling.text, c.time)

theorem DomainName.host_eq_iff {d d' : DomainName} : d.host = d'.host ↔ d.small = d'.small :=
  ⟨fun h => String.ofList_injective h, congrArg String.ofList⟩

/-- Every way to write the address of a domain gives the domain in small letters as the host. So
whatever addresses are called in whatever order, callers get one limiter, which is the one that is
kept, just if their domains are the same but for capitals, and there are as many limiters as domains
were called. -/
theorem one_limiter_per_domain :
    (∀ (d : DomainName) (s : Spelling d), Host.extract s.text = .ok d.host) ∧
    ∀ (settings : RateSettings) (jitter : Jitter) (calls : List DomainCall),
      ∃ got after,
        Destinations.limitersFor { settings, jitter } (calls.map (·.request)) = .ok (got, after) ∧
        got.map (·.1) = calls.map (·.domain.host) ∧
        (∀ e ∈ got, after.limiters.get? e.1 = some e.2) ∧
        (∀ (i j : Nat) (c c' : DomainCall) (e e' : Assigned),
          calls[i]? = some c → calls[j]? = some c' → got[i]? = some e → got[j]? = some e' →
            (e.2 = e'.2 ↔ c.domain.small = c'.domain.small)) ∧
        after.count = (calls.map (·.domain.small)).dedup.length := by
  refine ⟨fun d s => s.extract_text, ?_⟩
  intro settings jitter calls
  have hhosts : List.Forall₂ (fun request host => Host.extract request.1 = .ok host)
      (calls.map (·.request)) (calls.map (·.domain.host)) := by
    rw [List.forall₂_map_left_iff, List.forall₂_map_right_iff, List.forall₂_same]
    intro c _
    exact c.spelling.extract_text
  -- the i-th caller gets the limiter of the host of its domain
  obtain ⟨got, after, hrun, hassigns, hnamed⟩ :=
    Destinations.limitersFor_ok _ (Destinations.named_new settings jitter) hhosts
  refine ⟨got, after, hrun, hassigns.hosts_eq, hassigns.found, ?_, ?_⟩
  · intro i j c c' e e' hc hc' he he'
    have hhost : ∀ {i : Nat} {c : DomainCall} {e : Assigned}, calls[i]? = some c →
        got[i]? = some e → e.1 = c.domain.host := by
      intro i c e hc he
      have h := congrArg (·[i]?) hassigns.hosts_eq
      simp only [List.getElem?_map, hc, he, Option.map_some, Option.some_inj] at h
      exact h
    have hfound := hassigns.found e (List.mem_of_getElem? he)
    have hfound' := hassigns.found e' (List.mem_of_getElem? he')
    rw [← DomainName.host_eq_iff, ← hhost hc he, ← hhost hc' he']
    constructor
    · -- a limiter bears the name of its host
      intro heq
      rw [← hnamed.label _ _ hfound, ← hnamed.label _ _ hfound', heq]
    · -- one host has one limiter
      intro heq
      rw [heq, hfound'] at hfound
      exact (Option.some_inj.1 hfound).symm
  · rw [Destinations.count_of_assigns hnamed hassigns]
    have hsame : calls.map (·.domain.host) = (calls.map (·.domain.small)).map String.ofList := by
      rw [List.map_map]
      rfl
    have hinjective : Function.Injective String.ofList := fun _ _ h => String.ofList_injective h
    rw [hsame, List.dedup_map_of_injective hinjective, List.length_map]

/-! ## Two ways to write one domain -/

/-- The domain `example.com`. -/
def DomainName.exampleCom : DomainName where
  labels := ["example".toList, "com".toList]
  plain :=
    { two_le := by decide
      plain := by
        intro l hl
        rcases List.mem_pair.1 hl with rfl | rfl
        · exact ⟨by decide, List.all_eq_true.1 (by decide)⟩
        · exact ⟨by decide, List.all_eq_true.1 (by decide)⟩
      lettered := ⟨"com".toList, 'c', rfl, rfl, rfl⟩ }
  bare := by decide

/-- With a scheme, `www.`, a port and a path, and in letters of both cases. -/
def Spelling.full : Spelling .exampleCom where
  scheme := some "hTTps".toList
  www := some "WwW".toList
  name := "eXample.cOm".toList
  port := ":0080".toList
  path := "/a b//".toList
  scheme_web := by decide
  www_small := by decide
  name_small := by decide
  port_text := Or.inr ⟨"0080".toList, rfl, by decide, List.all_eq_true.1 (by decide), by decide⟩
  path_text := Or.inr ⟨"a b//".toList, rfl, List.all_eq_true.1 (by decide)⟩

/-- With nothing but the name. -/
def Spelling.short : Spelling .exampleCom where
  scheme := none
  www := none
  name := "example.com".toList
  port := []
  path := []
  scheme_web := by decide
  www_small := by decide
  name_small := by decide
  port_text := Or.inl rfl
  path_text := Or.inl rfl

theorem one_limiter_per_domain_full :
    Spelling.full.text = "hTTps://WwW.eXample.cOm:0080/a b//" ∧
      Spelling.short.text = "example.com" ∧
      Host.extract Spelling.full.text = .ok "example.com" ∧
      ∃ l after,
        Destinations.limitersFor { settings := {}, jitter := .disabled }
            [(Spelling.full.text, 0), (Spelling.short.text, 5)]
          = .ok ([("example.com", l), ("example.com", l)], after) ∧
        after.limiters.get? "example.com" = some l ∧ after.count = 1 := by
  obtain ⟨hextract, hcalls⟩ := one_limiter_per_domain
  have hhost : DomainName.exampleCom.host = "example.com" := by decide
  obtain ⟨got, after, hrun, hhosts, hkept, hsame, hcount⟩ :=
    hcalls {} .disabled [⟨.exampleCom, .full, 0⟩, ⟨.exampleCom, .short, 5⟩]
  refine ⟨by decide, by decide, hhost ▸ hextract _ .full, ?_⟩
  match got, hhosts with
  | [(host, l), (host', l')], hhosts =>
    obtain rfl : l = l' := (hsame 0 1 _ _ _ _ rfl rfl rfl rfl).2 rfl
    simp only [List.map_cons, List.map_nil, hhost, List.cons.injEq, and_true] at hhosts
    obtain ⟨rfl, rfl⟩ := hhosts
    exact ⟨l, after, hrun, hkept _ List.mem_cons_self, hcount.trans (by decide)⟩

end Precis
