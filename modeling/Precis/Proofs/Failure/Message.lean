import Mathlib.Data.List.Find
import Precis.Failure.Message
import Precis.Proofs.Text.Phrase

/-!
# How messages are classified

What a message has to say for a failure of each kind is written out in `Says`; a kind is mentioned
when some part of the message says so. The kind of a message is the first in the order of kinds that
it mentions, and `unknown` when it mentions none (`ofMessage_first`).

The table of patterns says the same row by row (`matches_row_iff`), so what is tried in the order of
the table is tried in the order of the kinds.
-/

namespace Precis.FailureKind

open Text Text.Pattern

/-- The kinds that messages are asked about, in this order. -/
def asked : List FailureKind :=
  [rateLimit, timeout, safetyBlocked, lengthLimit, validation, apiError]

/-- `m`, which stands between `u` and `v` in a message, says that the failure is of this kind. -/
def Says (u m v : List Char) : FailureKind → Prop
  | rateLimit =>
    StandsAlone (Spells "429") u m v ∨ Joined "rate" "limit" m ∨ Spells "too many requests" m ∨
      Spells "quota" m
  | timeout => (Joined "time" "out" m ∨ Joined "timed" "out" m) ∨ Spells "deadline" m
  | safetyBlocked => Spells "safety" m ∨ Joined "content" "filter" m ∨ Spells "blocked" m
  | lengthLimit =>
    (∃ x between y, m = x ++ between ++ y ∧ Joined "finish" "reason" x ∧ '\n' ∉ between ∧
        (Spells "length" y ∨ Joined "max" "tokens" y)) ∨
      Spells "truncated" m ∨ Spells "too long" m
  | validation =>
    Spells "invalid" m ∨ Spells "malformed" m ∨ Spells "validation" m ∨
      StandsAlone (fun m => Spells "400" m ∨ Spells "413" m ∨ Spells "422" m) u m v
  | apiError =>
    StandsAlone
        (fun m => ∃ d e, m = ['5', d, e] ∧ isDecimalDigit d = true ∧ isDecimalDigit e = true)
        u m v ∨
      Spells "server error" m ∨ Spells "unavailable" m ∨ Spells "overloaded" m
  | content | unknown => False

/-- Some part of the message says that the failure is of this kind. -/
def Mentions (message : String) (kind : FailureKind) : Prop :=
  ∃ u m v, message.toList = u ++ m ++ v ∧ Says u m v kind

/-! ## What the patterns match -/

variable {u m v : List Char}

theorem matches_timedOut_iff :
    (inOrder [word "time", optional (char 'd'), optional any, word "out"]).Matches u m v ↔
      Joined "time" "out" m ∨ Joined "timed" "out" m := by
  rw [matches_inOrder_optional_iff, matches_joined_iff, or_comm]
  apply or_congr Iff.rfl
  -- `time` and the letter after it are one word
  rw [← matches_joined_iff (u := u) (v := v)]
  exact (matches_inOrder_word_append_iff (a := "time") (b := "d")).symm

theorem matches_finished_iff :
    (inOrder [word "finish", optional any, word "reason", gap,
        oneOf [word "length", inOrder [word "max", optional any, word "tokens"]]]).Matches u m v ↔
      ∃ x between y, m = x ++ between ++ y ∧ Joined "finish" "reason" x ∧ '\n' ∉ between ∧
        (Spells "length" y ∨ Joined "max" "tokens" y) := by
  have hcap : ∀ {u m v : List Char},
      (oneOf [word "length", inOrder [word "max", optional any, word "tokens"]]).Matches u m v ↔
        Spells "length" m ∨ Joined "max" "tokens" m := by
    intro u m v
    rw [matches_oneOf_cons_iff, matches_word_iff]
    exact or_congr Iff.rfl matches_joined_iff
  have hparts := matches_inOrder_append_iff [word "finish", optional any, word "reason"]
    [gap, oneOf [word "length", inOrder [word "max", optional any, word "tokens"]]]
    (u := u) (m := m) (v := v)
  refine hparts.trans ?_
  constructor
  · rintro ⟨x, r, rfl, hx, hr⟩
    obtain ⟨between, y, rfl, hbetween, hy⟩ := matches_inOrder_cons_iff.1 hr
    exact ⟨x, between, y, (List.append_assoc x between y).symm, matches_joined_iff.1 hx,
      matches_gap_iff.1 hbetween, hcap.1 hy⟩
  · rintro ⟨x, between, y, rfl, hx, hbetween, hy⟩
    refine ⟨x, between ++ y, List.append_assoc x between y, matches_joined_iff.2 hx, ?_⟩
    exact matches_inOrder_cons_iff.2 ⟨between, y, rfl, .gap hbetween, hcap.2 hy⟩

theorem matches_badStatus_iff :
    (seq (char '4') (oneOf [word "00", word "13", word "22"])).Matches u m v ↔
      Spells "400" m ∨ Spells "413" m ∨ Spells "422" m := by
  have hword : ∀ {w : String}, (seq (char '4') (word w)).Matches u m v ↔ Spells ("4" ++ w) m := by
    intro w
    rw [← matches_word_iff (u := u) (v := v)]
    exact (matches_word_append_iff (a := "4")).symm
  unfold oneOf oneOf oneOf
  rw [matches_seq_alt_iff, matches_seq_alt_iff, hword, hword, hword]
  rfl

theorem matches_serverStatus_iff :
    (inOrder [char '5', digit, digit]).Matches u m v ↔
      ∃ d e, m = ['5', d, e] ∧ isDecimalDigit d = true ∧ isDecimalDigit e = true := by
  have hfive := isCaseOf_iff_of_not_isAlpha (p := '5') (by decide)
  constructor
  · intro h
    obtain ⟨x, r, rfl, hx, h⟩ := matches_inOrder_cons_iff.1 h
    obtain ⟨y, z, rfl, hy, hz⟩ := matches_inOrder_cons_iff.1 h
    obtain ⟨c, rfl, hc⟩ := matches_char_iff.1 hx
    obtain ⟨d, rfl, hd⟩ := matches_digit_iff.1 hy
    obtain ⟨e, rfl, he⟩ := matches_digit_iff.1 hz
    rw [(hfive c).1 hc]
    exact ⟨d, e, rfl, hd, he⟩
  · rintro ⟨d, e, rfl, hd, he⟩
    refine matches_inOrder_cons_iff.2 ⟨['5'], [d, e], rfl, .char ((hfive _).2 rfl), ?_⟩
    exact matches_inOrder_cons_iff.2 ⟨[d], [e], rfl, .digit hd, .digit he⟩

theorem matches_row_iff {row : Pattern × FailureKind} (h : row ∈ patterns) :
    row.1.Matches u m v ↔ Says u m v row.2 := by
  have htooMany : (alone (word "429")).Matches u m v ↔ StandsAlone (Spells "429") u m v :=
    matches_alone_iff fun _ _ _ => matches_word_iff
  have hbad := matches_alone_iff (fun _ _ _ => matches_badStatus_iff) (u := u) (m := m) (v := v)
  have hserver :=
    matches_alone_iff (fun _ _ _ => matches_serverStatus_iff) (u := u) (m := m) (v := v)
  simp only [patterns, List.mem_cons, List.not_mem_nil, or_false] at h
  -- each row is a choice between words and the patterns above
  rcases h with rfl | rfl | rfl | rfl | rfl | rfl
  · simp only [matches_oneOf_cons_iff, matches_oneOf_single_iff, matches_word_iff,
      matches_joined_iff, htooMany, Says]
  · simp only [matches_oneOf_cons_iff, matches_oneOf_single_iff, matches_word_iff,
      matches_timedOut_iff, Says]
  · simp only [matches_oneOf_cons_iff, matches_oneOf_single_iff, matches_word_iff,
      matches_joined_iff, Says]
  · rw [matches_oneOf_cons_iff, matches_finished_iff]
    simp only [matches_oneOf_cons_iff, matches_oneOf_single_iff, matches_word_iff, Says]
  · simp only [matches_oneOf_cons_iff, matches_oneOf_single_iff, matches_word_iff, hbad, Says]
  · simp only [matches_oneOf_cons_iff, matches_oneOf_single_iff, matches_word_iff, hserver, Says]

/-- A kind is mentioned when its pattern occurs. -/
theorem occursIn_iff_mentions {row : Pattern × FailureKind} (h : row ∈ patterns)
    (message : String) : row.1.occursIn message = true ↔ Mentions message row.2 := by
  have hspelled : patterns.all (·.1.isSpelled) = true := by decide +kernel
  rw [occursIn_iff (List.all_eq_true.1 hspelled row h)]
  unfold FoundIn Mentions
  simp only [matches_row_iff h]

/-! ## The first kind -/

theorem asked_eq : asked = patterns.map (·.2) := rfl

open scoped Classical in
theorem ofMessage_eq_find (message : String) :
    ofMessage message = (asked.find? fun kind => decide (Mentions message kind)).getD unknown := by
  rw [asked_eq, List.find?_map, ofMessage]
  congr 2
  apply List.find?_congr
  intro row hrow
  rw [Bool.eq_iff_iff, occursIn_iff_mentions hrow, Function.comp_apply, decide_eq_true_iff]

/-- Capitals and small letters mention the same kinds. -/
theorem mentions_recased {message other : String} (h : lowerAscii message = lowerAscii other)
    {kind : FailureKind} (hkind : kind ∈ asked) (hm : Mentions message kind) :
    Mentions other kind := by
  rw [asked_eq] at hkind
  obtain ⟨row, hrow, rfl⟩ := List.mem_map.1 hkind
  obtain ⟨u, m, v, hmessage, hsays⟩ := hm
  have hfound : row.1.FoundIn message := ⟨u, m, v, hmessage, (matches_row_iff hrow).2 hsays⟩
  obtain ⟨u', m', v', hother, hmatches⟩ := hfound.recased (String.ofList_inj.1 h)
  exact ⟨u', m', v', hother, (matches_row_iff hrow).1 hmatches⟩

/-- The kind of a message is the first of those asked about that it mentions, and `unknown` if it
mentions none of them. Making some of its letters capital or small does not change it. -/
theorem ofMessage_first (message : String) :
    (∀ kind, ofMessage message = kind ↔
      (Mentions message kind ∧ ∃ earlier later, asked = earlier ++ kind :: later ∧
          ∀ k ∈ earlier, ¬ Mentions message k) ∨
        (∀ k ∈ asked, ¬ Mentions message k) ∧ kind = unknown) ∧
      ∀ other, lowerAscii message = lowerAscii other → ofMessage other = ofMessage message := by
  classical
  constructor
  · intro kind
    rw [ofMessage_eq_find, Option.getD_eq_iff, List.find?_eq_some_iff_append, List.find?_eq_none,
      eq_comm (a := unknown)]
    simp only [decide_eq_true_eq, Bool.not_eq_true', decide_eq_false_iff_not]
  · intro other h
    rw [ofMessage_eq_find, ofMessage_eq_find]
    congr 1
    apply List.find?_congr
    intro kind hkind
    rw [decide_eq_decide]
    exact ⟨mentions_recased h.symm hkind, mentions_recased h hkind⟩

/-- A message that mentions two kinds, quietly and loudly. -/
theorem ofMessage_first_loud :
    lowerAscii "Quota used up, timed out" = lowerAscii "QUOTA USED UP, TIMED OUT" ∧
      ofMessage "QUOTA USED UP, TIMED OUT" = ofMessage "Quota used up, timed out" ∧
        Mentions "QUOTA USED UP, TIMED OUT" rateLimit := by
  have hsame : lowerAscii "Quota used up, timed out" = lowerAscii "QUOTA USED UP, TIMED OUT" := by
    decide +kernel
  have hquiet : ofMessage "QUOTA USED UP, TIMED OUT" = rateLimit := by decide +kernel
  refine ⟨hsame, (ofMessage_first _).2 _ hsame, ?_⟩
  rcases ((ofMessage_first _).1 rateLimit).1 hquiet with ⟨hmentions, _⟩ | ⟨_, hunknown⟩
  · exact hmentions
  · cases hunknown

/-- A line feed keeps the two parts apart. -/
example : ofMessage "finish_reason was Max Tokens" = lengthLimit ∧
    ofMessage "finish_reason\nwas Max Tokens" = unknown := by decide +kernel

end Precis.FailureKind
