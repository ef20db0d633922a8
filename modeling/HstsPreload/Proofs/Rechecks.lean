import HstsPreload.Pending.Changes
import Mathlib.Data.List.Sort
import Mathlib.Data.String.Basic
import Mathlib.Logic.Relation
import Std.Data.ExtTreeSet

/-!
# Checking pending changes again

The checks of one list run side by side and end in any order. Whatever the order, what they have kept
and what they have yet to look at make up the same names, so in the end the names that are kept depend
on the verdicts alone. The set of names to be taken off is kept beside the lists. It does not change
while the lists are taken out, and is made anew when both are back.
-/

namespace HstsPreload

namespace Checks

lemma kept_eq (check : String → Outcome) (names : List String) :
    kept check names = (names.filter (check · = .keep)).mergeSort := by
  simp only [kept, beq_eq_decide]

lemma mem_kept {check : String → Outcome} {names : List String} {name : String} :
    name ∈ kept check names ↔ name ∈ names ∧ check name = .keep := by
  rw [kept_eq, List.mem_mergeSort, List.mem_filter, decide_eq_true_eq]

lemma kept_kept (check : String → Outcome) (names : List String) :
    kept check (kept check names) = kept check names := by
  have hall : (kept check names).filter (check · = .keep) = kept check names := by
    rw [List.filter_eq_self]
    intro name hname
    exact decide_eq_true (mem_kept.mp hname).2
  rw [kept_eq check (kept check names), hall]
  exact List.mergeSort_eq_self _ List.sortedLE_mergeSort.pairwise

lemma kept_ofBool (verdict : String → Bool) (names : List String) :
    kept (fun name => .ofBool (verdict name)) names = (names.filter verdict).mergeSort := by
  have hkeep : ∀ keep, (Outcome.ofBool keep == .keep) = keep := by decide
  simp only [kept, hkeep]

namespace Pool

variable {check : String → Outcome} {names : List String} {p q : Pool}

/-- What has been kept, with what will be, is what is kept of all the names. -/
def Accounts (check : String → Outcome) (names : List String) (p : Pool) : Prop :=
  (p.kept ++ (p.running ++ p.waiting).filter (check · = .keep)).Perm
    (names.filter (check · = .keep))

lemma accounts_initial (check : String → Outcome) (names : List String) :
    Accounts check names ⟨names, [], []⟩ :=
  .refl _

lemma exists_of_start (h : p.start? = some q) : ∃ name waiting, p.waiting = name :: waiting ∧
    p.running.length < parallelism ∧ q = { p with waiting, running := p.running ++ [name] } := by
  unfold start? at h
  split at h
  · cases h
  · next name waiting hw =>
    split_ifs at h with hroom
    exact ⟨name, waiting, hw, hroom, (Option.some.inj h).symm⟩

lemma Accounts.step (h : Accounts check names p) (hstep : Step check p q) :
    Accounts check names q := by
  cases hstep with
  | start hstart =>
    -- a check that starts goes from the front of one list to the end of the other
    obtain ⟨name, waiting, hw, -, rfl⟩ := exists_of_start hstart
    rw [Accounts, hw] at h
    rw [Accounts, List.append_assoc, List.singleton_append]
    exact h
  | @finish name hname =>
    have hsplit : (p.running ++ p.waiting).Perm (name :: (p.running.erase name ++ p.waiting)) :=
      (List.perm_cons_erase hname).append_right p.waiting
    refine List.Perm.trans ?_ h
    refine List.Perm.trans ?_ ((hsplit.filter _).symm.append_left p.kept)
    by_cases hk : check name = .keep
    · simp [finish, hk]
    · simp [finish, hk]

lemma length_running_step (h : p.running.length ≤ parallelism) (hstep : Step check p q) :
    q.running.length ≤ parallelism := by
  cases hstep with
  | start hstart =>
    obtain ⟨name, waiting, -, hroom, rfl⟩ := exists_of_start hstart
    rw [List.length_append]
    exact hroom
  | finish hname => exact (List.length_erase_le).trans h

/-- However the checks of some names go, never too many of them are under way. -/
theorem length_running_le (h : Relation.ReflTransGen (Step check) ⟨names, [], []⟩ p) :
    p.running.length ≤ parallelism := by
  induction h with
  | refl => exact Nat.zero_le _
  | tail _ hstep ih => exact length_running_step ih hstep

lemma isDone_iff : p.isDone = true ↔ p.waiting = [] ∧ p.running = [] := by
  simp [isDone]

lemma Accounts.mergeSort_kept (h : Accounts check names p) (hdone : p.isDone = true) :
    p.kept.mergeSort = Checks.kept check names := by
  obtain ⟨hw, hr⟩ := isDone_iff.mp hdone
  rw [Accounts, hw, hr, List.append_nil, List.filter_nil, List.append_nil] at h
  rw [kept_eq]
  apply List.Perm.eq_of_sortedLE List.sortedLE_mergeSort List.sortedLE_mergeSort
  exact (List.mergeSort_perm _ _).trans (h.trans (List.mergeSort_perm _ _).symm)

/-- How many steps are left: two for each check that waits, and one for each that is under way. -/
def work (p : Pool) : Nat :=
  2 * p.waiting.length + p.running.length

lemma work_step (h : Step check p q) : q.work + 1 = p.work := by
  cases h with
  | start hstart =>
    obtain ⟨name, waiting, hw, -, rfl⟩ := exists_of_start hstart
    simp only [work, hw, List.length_append, List.length_cons, List.length_nil]
    omega
  | finish hname =>
    have hpos := List.length_pos_of_mem hname
    simp only [work, finish, List.length_erase_of_mem hname]
    omega

lemma exists_step (check : String → Outcome) (h : p.isDone = false) : ∃ q, Step check p q := by
  cases hr : p.running with
  | cons name running => exact ⟨_, .finish (hr ▸ List.mem_cons_self)⟩
  | nil =>
    cases hw : p.waiting with
    | nil => simp [isDone, hr, hw] at h
    | cons name waiting =>
      have hstart : p.start? = some { p with waiting, running := p.running ++ [name] } := by
        simp [start?, hw, hr, parallelism]
      exact ⟨_, .start hstart⟩

end Pool

end Checks

open Checks

lemma PendingChanges.removes_iff {c : PendingChanges} {name : String} :
    c.removes name = true ↔ name ∈ c.removals ∨ name ∈ c.automatedRemovals := by
  simp [removes]

lemma PendingChanges.recheck_recheck (c : PendingChanges) (s : Scanner) :
    (c.recheck s).recheck s = c.recheck s := by
  simp only [recheck, kept_kept]

/-- Pending changes, and beside them the set of all names that they take off the list. -/
structure HeldChanges where
  changes : PendingChanges := {}
  takenOff : Std.ExtTreeSet String := ∅

namespace HeldChanges

/-- Makes the set anew from the lists. -/
def renew (h : HeldChanges) : HeldChanges where
  changes := h.changes
  takenOff := .ofList (h.changes.removals ++ h.changes.automatedRemovals)

def ofLists (additions removals automatedRemovals : List String) : HeldChanges :=
  renew { changes := .ofLists additions removals automatedRemovals }

def removes (h : HeldChanges) (name : String) : Bool :=
  h.takenOff.contains name

/-- Whether the set is that of the names on the lists. -/
def InStep (h : HeldChanges) : Prop :=
  ∀ name, h.removes name = h.changes.removes name

lemma inStep_renew (h : HeldChanges) : h.renew.InStep := by
  intro name
  rw [removes, renew, Std.ExtTreeSet.contains_ofList, PendingChanges.removes, List.contains_append]

lemma inStep_ofLists (additions removals automatedRemovals : List String) :
    (ofLists additions removals automatedRemovals).InStep :=
  inStep_renew _

end HeldChanges

/-- How far pending changes have been checked again. The list whose checks are under way is taken
out. -/
inductive Recheck where
  | additions (held : HeldChanges) (pool : Pool)
  | automated (held : HeldChanges) (pool : Pool)
  | ended (held : HeldChanges)

namespace Recheck

def mayJoin (s : Scanner) (name : String) : Outcome :=
  .ofBool !(s.eligible name .bulk1Year).hasErrors

def mustLeave (s : Scanner) (name : String) : Outcome :=
  .ofBool (s.eligible name .bulk18Weeks).hasErrors

/-- Takes out the additions to check them. -/
def start (h : HeldChanges) : Recheck :=
  .additions { h with changes.additions := [] } ⟨h.changes.additions, [], []⟩

/-- Puts back the additions that are kept, and takes out the automated removals. -/
def next (h : HeldChanges) (pool : Pool) : Recheck :=
  .automated { h with
      changes.additions := pool.kept.mergeSort, changes.automatedRemovals := [] }
    ⟨h.changes.automatedRemovals, [], []⟩

/-- Puts back the automated removals that are kept. -/
def finish (h : HeldChanges) (pool : Pool) : Recheck :=
  .ended { h with changes.automatedRemovals := pool.kept.mergeSort }.renew

inductive Step (s : Scanner) : Recheck → Recheck → Prop where
  | addition {h : HeldChanges} {p q : Pool} (step : Pool.Step (mayJoin s) p q) :
      Step s (.additions h p) (.additions h q)
  | next {h : HeldChanges} {p : Pool} (done : p.isDone = true) : Step s (.additions h p) (next h p)
  | removal {h : HeldChanges} {p q : Pool} (step : Pool.Step (mustLeave s) p q) :
      Step s (.automated h p) (.automated h q)
  | finish {h : HeldChanges} {p : Pool} (done : p.isDone = true) :
      Step s (.automated h p) (finish h p)

variable {s : Scanner} {h h' : HeldChanges} {r r' : Recheck}

/-- What is known while `h` is checked again: where the lists are that have not been checked, and what
has come of the others. -/
def Sound (s : Scanner) (h : HeldChanges) : Recheck → Prop
  | .additions held p =>
    held = { h with changes.additions := [] } ∧ p.Accounts (mayJoin s) h.changes.additions
  | .automated held p =>
    held = { h with
      changes.additions := (h.changes.recheck s).additions, changes.automatedRemovals := [] } ∧
    p.Accounts (mustLeave s) h.changes.automatedRemovals
  | .ended held => held = { h with changes := h.changes.recheck s }.renew

lemma sound_start (s : Scanner) (h : HeldChanges) : Sound s h (start h) :=
  ⟨rfl, Pool.accounts_initial _ _⟩

lemma Sound.step (hr : Sound s h r) (hstep : Step s r r') : Sound s h r' := by
  cases hstep with
  | addition step => exact ⟨hr.1, hr.2.step step⟩
  | next done =>
    obtain ⟨rfl, haccounts⟩ := hr
    refine ⟨?_, Pool.accounts_initial _ _⟩
    rw [haccounts.mergeSort_kept done]
    rfl
  | removal step => exact ⟨hr.1, hr.2.step step⟩
  | finish done =>
    obtain ⟨rfl, haccounts⟩ := hr
    rw [finish, haccounts.mergeSort_kept done]
    rfl

lemma sound_of_run (hrun : Relation.ReflTransGen (Step s) (start h) r) : Sound s h r := by
  induction hrun with
  | refl => exact sound_start s h
  | tail _ hstep ih => exact ih.step hstep

def work : Recheck → Nat
  | .additions held p => p.work + 2 * held.changes.automatedRemovals.length + 2
  | .automated _ p => p.work + 1
  | .ended _ => 0

lemma work_step (hstep : Step s r r') : r'.work < r.work := by
  cases hstep with
  | addition step | removal step =>
    have hwork := Pool.work_step step
    simp only [work]
    omega
  | next | finish =>
    simp only [work, next, finish, Pool.work, List.length_nil]
    omega

lemma exists_step (s : Scanner) (r : Recheck) : (∃ r', Step s r r') ∨ ∃ h, r = .ended h := by
  cases r with
  | ended h => exact .inr ⟨h, rfl⟩
  | additions h p =>
    left
    by_cases hdone : p.isDone = true
    · exact ⟨_, .next hdone⟩
    · obtain ⟨q, hq⟩ := Pool.exists_step (mayJoin s) (Bool.eq_false_iff.mpr hdone)
      exact ⟨_, .addition hq⟩
  | automated h p =>
    left
    by_cases hdone : p.isDone = true
    · exact ⟨_, .finish hdone⟩
    · obtain ⟨q, hq⟩ := Pool.exists_step (mustLeave s) (Bool.eq_false_iff.mpr hdone)
      exact ⟨_, .removal hq⟩

theorem wellFounded_step (s : Scanner) : WellFounded fun r' r => Step s r r' :=
  Subrelation.wf work_step (measure work).wf

lemma exists_ended (s : Scanner) (r : Recheck) :
    ∃ h, Relation.ReflTransGen (Step s) r (.ended h) := by
  induction r using (wellFounded_step s).induction with
  | h r ih =>
    rcases exists_step s r with ⟨r', hstep⟩ | ⟨h, rfl⟩
    · obtain ⟨h, hrun⟩ := ih r' hstep
      exact ⟨h, .head hstep hrun⟩
    · exact ⟨h, .refl⟩

lemma eq_of_ended (hrun : Relation.ReflTransGen (Step s) (start h) (.ended h')) :
    h' = { h with changes := h.changes.recheck s }.renew :=
  sound_of_run hrun

end Recheck

/-- The changes that are left once all checks have ended, in whatever order they did. The checks come
to an end, and nothing is left to change if they are made again. -/
theorem Recheck.same_in_any_order (s : Scanner) (h : HeldChanges) (hin : h.InStep) :
    WellFounded (fun r' r => Step s r r') ∧
    (∀ r, ∃ h', Relation.ReflTransGen (Step s) r (.ended h')) ∧
    ∀ h', Relation.ReflTransGen (Step s) (start h) (.ended h') →
      h'.changes = h.changes.recheck s ∧ h'.InStep ∧
      h'.changes.additions =
        (h.changes.additions.filter fun name => !(s.eligible name .bulk1Year).hasErrors).mergeSort ∧
      h'.changes.automatedRemovals = (h.changes.automatedRemovals.filter fun name =>
        (s.eligible name .bulk18Weeks).hasErrors).mergeSort ∧
      h'.changes.removals = h.changes.removals ∧
      (∀ name, h'.removes name = true ↔
        name ∈ h.changes.removals ∨ name ∈ h'.changes.automatedRemovals) ∧
      (∀ h'', Relation.ReflTransGen (Step s) (start h') (.ended h'') → h'' = h') ∧
      ∀ name, h.removes name = false → h'.removes name = false := by
  refine ⟨wellFounded_step s, exists_ended s, ?_⟩
  intro h' hrun
  obtain rfl := eq_of_ended hrun
  have hremoves := HeldChanges.inStep_renew { h with changes := h.changes.recheck s }
  refine ⟨rfl, hremoves, kept_ofBool _ _, kept_ofBool _ _, rfl, ?_, ?_, ?_⟩
  · intro name
    rw [hremoves]
    exact PendingChanges.removes_iff
  · intro h'' hagain
    rw [eq_of_ended hagain]
    simp only [HeldChanges.renew, PendingChanges.recheck_recheck]
  · intro name hname
    rw [hin] at hname
    rw [hremoves]
    rw [Bool.eq_false_iff, Ne, PendingChanges.removes_iff] at hname ⊢
    exact fun hr => hname (hr.imp_right fun hk => (mem_kept.mp hk).1)

namespace Partly

/-- Some names fail, under every policy. -/
def scanner : Scanner where
  eligible name _ := if name ∈ ["x", "y"] then .ofError ⟨"", "", ""⟩ else {}
  removable _ := {}

def held : HeldChanges :=
  .ofLists ["b", "x", "a"] ["m"] ["y", "z"]

theorem failing_names_dropped : held.InStep ∧
    ∃ h', Relation.ReflTransGen (Recheck.Step scanner) (.start held) (.ended h') ∧
      h'.changes = ⟨["a", "b"], ["m"], ["y"]⟩ ∧ h'.removes "y" = true ∧
      held.removes "z" = true ∧ h'.removes "z" = false := by
  have hin : held.InStep := HeldChanges.inStep_ofLists _ _ _
  obtain ⟨-, hends, hend⟩ := Recheck.same_in_any_order scanner held hin
  obtain ⟨h', hrun⟩ := hends (.start held)
  obtain ⟨-, -, hadditions, hautomated, hremovals, hremoves, -, -⟩ := hend h' hrun
  have hsorted : held.changes.additions = ["a", "b", "x"] := by
    have hba : ¬"b" ≤ "a" := by decide
    have hbx : "b" ≤ "x" := by decide
    simp [held, HeldChanges.ofLists, HeldChanges.renew, PendingChanges.ofLists, List.mergeSort, hba,
      hbx]
  have hjoin : (["a", "b", "x"].filter fun name =>
      !(scanner.eligible name .bulk1Year).hasErrors) = ["a", "b"] := by decide
  have hleave : (["y", "z"].filter fun name =>
      (scanner.eligible name .bulk18Weeks).hasErrors) = ["y"] := by decide
  have hkept : h'.changes.additions = ["a", "b"] := by
    rw [hadditions, hsorted, hjoin]
    exact List.mergeSort_eq_self _ (by decide)
  have hleft : h'.changes.automatedRemovals = ["y"] := by
    rw [hautomated]
    exact (congrArg List.mergeSort hleave).trans (List.mergeSort_singleton _)
  refine ⟨hin, h', hrun, ?_, ?_, ?_, ?_⟩
  · calc h'.changes
        = ⟨h'.changes.additions, h'.changes.removals, h'.changes.automatedRemovals⟩ := rfl
      _ = ⟨["a", "b"], ["m"], ["y"]⟩ := by rw [hkept, hremovals, hleft]; rfl
  · rw [hremoves, hleft]
    decide
  · rw [hin]
    decide
  · rw [Bool.eq_false_iff, Ne, hremoves, hleft]
    decide

end Partly

end HstsPreload
