import Precis.Dispatch.Settings
import Precis.Packing.Limits
import Precis.Problem
import Precis.Rate.Jitter
import Precis.Rate.Tier
import Precis.Retry.Queue
import Precis.Source.Pager
import Precis.Text.Blank

/-!
# Settings

Everything that can be set for a job. Settings are read from a record, which may leave out any part,
and are written with all parts. `check` names the first demand that settings do not meet.
-/

namespace Precis

/-- The settings of a job. -/
structure Settings where
  name : String := "post-summaries"
  batch : Limits := {}
  dispatch : DispatchSettings := {}
  reader : ReaderSettings := {}
  retry : RetrySettings := {}
  rates : RateSettings := {}
  jitter : Jitter := {}
  deriving Inhabited

namespace Settings

/-- The names of the parts in a record. -/
def fieldNames : List String :=
  ["name", "batch", "dispatch", "reader", "retry_queue", "rate_limits", "jitter"]

/-- The settings of a record; what is left out has its default. -/
def read? [Document δ] (v : δ) : Option Settings := do
  let r ← Document.slots fieldNames v
  let d : Settings := {}
  return {
    name := ← (r.get "name").withDefault d.name Document.text?
    batch := ← (r.get "batch").withDefault d.batch Limits.read?
    dispatch := ← (r.get "dispatch").withDefault d.dispatch DispatchSettings.read?
    reader := ← (r.get "reader").withDefault d.reader ReaderSettings.read?
    retry := ← (r.get "retry_queue").withDefault d.retry RetrySettings.read?
    rates := ← (r.get "rate_limits").withDefault d.rates RateSettings.read?
    jitter := ← (r.get "jitter").withDefault d.jitter Jitter.read? }

/-- The settings as a record. -/
def toTree (s : Settings) : Tree :=
  .record
    [("name", .text s.name),
     ("batch", s.batch.toTree),
     ("dispatch", s.dispatch.toTree),
     ("reader", s.reader.toTree),
     ("retry_queue", s.retry.toTree),
     ("rate_limits", s.rates.toTree),
     ("jitter", s.jitter.toTree)]

/-! ## Demands -/

/-- What is asked of a field. -/
structure Demand where
  field : String
  isMet : Bool
  /-- What to say when it is not met. -/
  text : String

namespace Demand

/-- A word that must not be zero. -/
def positive (field : String) (n : UInt64) : Demand := ⟨field, n ≠ 0, "must be positive"⟩

/-- A tier that lets calls through, in a period that takes time. -/
def ofTier (field : String) (t : TierLimits) : Demand :=
  ⟨field, t.calls ≠ 0 && t.periodSeconds ≠ 0,
    "limit_for_period and refresh_period_secs must be positive"⟩

/-- The problem of a demand that is not met. -/
def problem (d : Demand) : Problem :=
  .stated .configuration d.text { field := some d.field, source := some "pipeline_config" }

end Demand

/-- The demands on settings in the order in which they are checked. -/
def demands (s : Settings) : List Demand :=
  let b := s.batch
  [⟨"name", !Text.isBlankText s.name, "pipeline name must not be empty"⟩,
   .positive "batch.max_tokens_per_request" b.maxTokens,
   .positive "batch.max_batch_size" b.maxItems,
   ⟨"batch.tokens_per_char", b.tokensPerChar.isFinite && b.tokensPerChar > 0,
     "must be a positive number"⟩,
   ⟨"batch.output_safety_margin", b.outputMargin > 0 && b.outputMargin ≤ 1, "must be in (0, 1]"⟩,
   ⟨"batch.truncation_buffer_tokens", b.truncationBuffer < b.maxTokens,
     "must be smaller than max_tokens_per_request"⟩,
   .positive "dispatch.concurrency_limit" s.dispatch.concurrency,
   .positive "dispatch.timeout_ms" s.dispatch.timeout,
   ⟨"dispatch.max_retry_attempts", s.dispatch.maxAttempts ≠ 0, "must allow at least one attempt"⟩,
   .positive "reader.page_size" s.reader.pageSize,
   ⟨"jitter.min_ms", s.jitter.min ≤ s.jitter.max, "must not exceed jitter.max_ms"⟩,
   .ofTier "rate_limits.standard" s.rates.standard,
   .ofTier "rate_limits.conservative" s.rates.conservative,
   .ofTier "rate_limits.ultra_safe" s.rates.ultraSafe]

/-- Settings are accepted when they meet every demand. -/
def check (s : Settings) : Except Problem Unit :=
  match s.demands.find? (!·.isMet) with
  | some d => .error d.problem
  | none => .ok ()

/-- Settings that are accepted meet every demand. -/
theorem isMet_of_check {s : Settings} (h : s.check = .ok ()) {d : Demand}
    (hd : d ∈ s.demands) : d.isMet = true := by
  rw [Settings.check] at h
  split at h
  · cases h
  · rename_i hall
    rw [List.find?_eq_none] at hall
    simpa using hall d hd

end Settings

end Precis
