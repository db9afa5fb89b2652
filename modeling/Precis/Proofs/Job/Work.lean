import Precis.Job.Basic

/-!
# Assertions about work

`Meets before w after stopped`: work that is begun at a desk with `before` leaves one with `after`
when it comes to its end, and one with `stopped` when a call fails or the steps run out. There is
one rule for each way in which work is put together and one for a call; a proof about a run goes
through its parts and never looks at how work is carried out.
-/

namespace Precis.Job

variable {σ α β : Type}

/-- Begun with `before`, the work ends with `after`, or early with `stopped`. -/
def Meets (before : Desk σ → Prop) (w : Work σ α) (after : α → Desk σ → Prop)
    (stopped : Desk σ → Prop) : Prop :=
  ∀ desk, before desk →
    match w.run desk with
    | (.ok a, desk') => after a desk'
    | (.error _, desk') => stopped desk'

section Rules

variable {before : Desk σ → Prop} {after : α → Desk σ → Prop} {stopped : Desk σ → Prop}

theorem Meets.weaken {b b' : Desk σ → Prop} {w : Work σ α} {after' : α → Desk σ → Prop}
    (h : Meets b w after stopped) (hbefore : ∀ desk, b' desk → b desk)
    (hafter : ∀ a desk, after a desk → after' a desk) : Meets b' w after' stopped := by
  intro desk hdesk
  have hrun := h desk (hbefore desk hdesk)
  rcases hw : w.run desk with ⟨_ | a, desk'⟩
  · rw [hw] at hrun
    exact hrun
  · rw [hw] at hrun
    exact hafter a desk' hrun

/-- A rule for each desk by itself. -/
theorem meets_intro {w : Work σ α}
    (h : ∀ desk, before desk → Meets (· = desk) w after stopped) : Meets before w after stopped :=
  fun desk hdesk => h desk hdesk desk rfl

theorem meets_pure {a : α} (h : ∀ desk, before desk → after a desk) :
    Meets before (pure a) after stopped := h

theorem meets_bind {m : β → Desk σ → Prop} {w : Work σ β} {f : β → Work σ α}
    (hw : Meets before w m stopped) (hf : ∀ b, Meets (m b) (f b) after stopped) :
    Meets before (w >>= f) after stopped := by
  intro desk hdesk
  have hrun := hw desk hdesk
  have hbind : (w >>= f).run desk = match w.run desk with
      | (.ok b, desk') => (f b).run desk'
      | (.error e, desk') => (.error e, desk') := by
    show (ExceptT.bindCont f (w.run desk).1) (w.run desk).2 = _
    rcases w.run desk with ⟨_ | b, desk'⟩ <;> rfl
  rw [hbind]
  rcases h : w.run desk with ⟨_ | b, desk'⟩
  · rw [h] at hrun
    exact hrun
  · rw [h] at hrun
    exact hf b desk' hrun

/-- Looking at the desk leaves it as it is. -/
theorem meets_get_bind {f : Desk σ → Work σ α}
    (h : ∀ desk, before desk → Meets (· = desk) (f desk) after stopped) :
    Meets before (get >>= f) after stopped := by
  intro desk hdesk
  exact h desk hdesk desk rfl

theorem meets_set {after : PUnit → Desk σ → Prop} {desk : Desk σ} (h : after ⟨⟩ desk) :
    Meets before (set desk : Work σ PUnit) after stopped := fun _ _ => h

theorem meets_modify {after : PUnit → Desk σ → Prop} {change : Desk σ → Desk σ}
    (h : ∀ desk, before desk → after ⟨⟩ (change desk)) :
    Meets before (modify change : Work σ PUnit) after stopped := h

theorem meets_throw {stop : Stop} (h : ∀ desk, before desk → stopped desk) :
    Meets before (throw stop : Work σ α) after stopped := h

/-- A call may fail at once; else its effect is noted. -/
theorem meets_call {after : Unit → Desk σ → Prop} {faults : Faults} {e : Effect}
    (hfail : ∀ desk, before desk → stopped desk)
    (hdone : ∀ desk, before desk → after () { desk with done := desk.done ++ [e] }) :
    Meets before (call faults e : Work σ Unit) after stopped := by
  refine meets_get_bind fun desk hdesk => ?_
  -- the faults look at the calls of the run so far
  rcases faults (desk.done.map Effect.access) e.access with _ | problem
  · exact meets_set (hdone desk hdesk)
  · refine meets_throw ?_
    intro _ hsame
    rw [hsame]
    exact hfail desk hdesk

/-- A change of the pager ends the work where it fails. -/
theorem meets_paged {change : Paging → Except Problem α × Paging}
    (hfail : ∀ desk problem paging, before desk → change desk.paging = (.error problem, paging) →
      stopped { desk with paging })
    (hdone : ∀ desk a paging, before desk → change desk.paging = (.ok a, paging) →
      after a { desk with paging }) :
    Meets before (paged change : Work σ α) after stopped := by
  refine meets_get_bind fun desk hdesk => ?_
  dsimp only
  rcases hchange : change desk.paging with ⟨problem | a, paging⟩
  · -- what the change left is put back before the work ends
    refine meets_bind (m := fun _ => stopped) ?_ fun _ => meets_throw fun _ h => h
    exact meets_set (hfail desk problem paging hdesk hchange)
  · refine meets_bind (m := fun _ => after a) ?_ fun _ => meets_pure fun _ h => h
    exact meets_set (hdone desk a paging hdesk hchange)

/-- A call whose effect on the desk follows it, and what comes then. -/
theorem meets_call_modify_bind {m : Desk σ → Prop} {faults : Faults} {e : Effect}
    {change : Desk σ → Desk σ} {next : Work σ α} (hfail : ∀ desk, before desk → stopped desk)
    (hdone : ∀ desk, before desk → m (change { desk with done := desk.done ++ [e] }))
    (hnext : Meets m next after stopped) :
    Meets before (do call faults e; modify change; next) after stopped := by
  refine meets_bind (m := fun _ desk => m (change desk)) ?_ fun _ => ?_
  · exact meets_call hfail hdone
  · refine meets_bind (m := fun _ => m) ?_ fun _ => hnext
    exact meets_modify fun _ hdesk => hdesk

theorem meets_call_modify {after : PUnit → Desk σ → Prop} {faults : Faults} {e : Effect}
    {change : Desk σ → Desk σ} (hfail : ∀ desk, before desk → stopped desk)
    (hdone : ∀ desk, before desk → after ⟨⟩ (change { desk with done := desk.done ++ [e] })) :
    Meets before (do call faults e; modify change) after stopped := by
  refine meets_bind (m := fun _ desk => after ⟨⟩ (change desk)) ?_ fun _ => ?_
  · exact meets_call hfail hdone
  · exact meets_modify fun _ hdesk => hdesk

/-- Each element is worked on in its turn; the assertion speaks of those that are left. -/
theorem meets_forM (left : List β → Desk σ → Prop) {f : β → Work σ PUnit}
    (h : ∀ b rest, Meets (left (b :: rest)) (f b) (fun _ => left rest) stopped) (bs : List β) :
    Meets (left bs) (bs.forM f) (fun _ => left []) stopped := by
  induction bs with
  | nil => exact meets_pure fun _ hdesk => hdesk
  | cons b rest ih => exact meets_bind (h b rest) fun _ => ih

theorem meets_foldlM (left : α → List β → Desk σ → Prop) {f : α → β → Work σ α}
    (h : ∀ a b rest, Meets (left a (b :: rest)) (f a b) (fun a' => left a' rest) stopped) (a : α)
    (bs : List β) : Meets (left a bs) (bs.foldlM f a) (fun a' => left a' []) stopped := by
  induction bs generalizing a with
  | nil => exact meets_pure fun _ hdesk => hdesk
  | cons b rest ih =>
    rw [List.foldlM_cons]
    exact meets_bind (h a b rest) fun a' => ih a'

end Rules

end Precis.Job
