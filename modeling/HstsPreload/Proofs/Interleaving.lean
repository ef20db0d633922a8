import HstsPreload.Registry.Program
import HstsPreload.Store.Memory
import Mathlib.Logic.Relation

/-!
# Programs over one store, interleaved

A store is lawful when its answers are those of a finite map of records, as long as it
answers at all. Several programs share a world by making their accesses one at a time in
any order; between two accesses time may pass and the store may begin or cease to fail.
-/

namespace HstsPreload

/-- A store that answers, whenever it answers, from a finite map of records. A write that
fails leaves the records as they were. -/
class LawfulStore (σ : Type) [RecordStore σ] where
  records : σ → Records
  find_ok {s : σ} {domain : String} {r : Record} :
    RecordStore.find s domain = .ok r → r = (records s).get domain
  withStatus_ok {s : σ} {status : Status} {rs : List Record} :
    RecordStore.withStatus s status = .ok rs → rs = (records s).withStatus status
  all_ok {s : σ} {rs : List Record} : RecordStore.all s = .ok rs → rs = (records s).inOrder
  write_ok {s : σ} {batch : List Record} :
    (RecordStore.write s batch).withinDeadline.1 = .ok () →
      records (RecordStore.write s batch).withinDeadline.2 = (records s).putAll batch
  write_error {s : σ} {batch : List Record} {fault : StoreFault} :
    (RecordStore.write s batch).withinDeadline.1 = .error fault →
      records (RecordStore.write s batch).withinDeadline.2 = records s
  /-- No call fails, now or after further writes. -/
  Works : σ → Prop
  find_works {s : σ} (domain : String) : Works s → ∃ r, RecordStore.find s domain = .ok r
  withStatus_works {s : σ} (status : Status) :
    Works s → ∃ rs, RecordStore.withStatus s status = .ok rs
  all_works {s : σ} : Works s → ∃ rs, RecordStore.all s = .ok rs
  write_works {s : σ} (batch : List Record) : Works s →
    (RecordStore.write s batch).withinDeadline.1 = .ok () ∧
      Works (RecordStore.write s batch).withinDeadline.2

namespace MemoryStore

lemma eq_of_answer {α : Type} {s : MemoryStore} {a b : α} (h : s.answer a = .ok b) : b = a := by
  unfold answer at h
  split at h
  · cases h
  · exact (Except.ok.inj h).symm

lemma write_withinDeadline (s : MemoryStore) (batch : List Record) :
    (RecordStore.write s batch).withinDeadline =
      if 1000 * deadlineSeconds < s.delays.headD 0 then
        (.error (.timeout ⟨deadlineSeconds, 0⟩), s.pastDelay)
      else s.pastDelay.writeBatch batch := rfl

lemma records_write (s : MemoryStore) (batch : List Record) :
    ((RecordStore.write s batch).withinDeadline.1 = .ok () ∧
      (RecordStore.write s batch).withinDeadline.2.records = s.records.putAll batch) ∨
    ∃ fault, (RecordStore.write s batch).withinDeadline.1 = .error fault ∧
      (RecordStore.write s batch).withinDeadline.2.records = s.records := by
  rw [write_withinDeadline]
  split
  · exact .inr ⟨_, rfl, rfl⟩
  · unfold writeBatch
    split
    · exact .inr ⟨_, rfl, rfl⟩
    · exact .inl ⟨rfl, rfl⟩

/-- A store that was not told to fail and takes its time only within the deadline. -/
def Healthy (s : MemoryStore) : Prop :=
  s.down = false ∧ s.writesLeft = none ∧ ∀ delay ∈ s.delays, delay ≤ 1000 * deadlineSeconds

lemma Healthy.answer {α : Type} {s : MemoryStore} (h : s.Healthy) (a : α) :
    s.answer a = .ok a := by
  simp [MemoryStore.answer, h.1]

lemma Healthy.write {s : MemoryStore} (h : s.Healthy) (batch : List Record) :
    (RecordStore.write s batch).withinDeadline.1 = .ok () ∧
      (RecordStore.write s batch).withinDeadline.2.Healthy := by
  obtain ⟨hdown, hleft, hdelays⟩ := h
  have htook : ¬1000 * deadlineSeconds < s.delays.headD 0 := by
    cases hd : s.delays with
    | nil => simp
    | cons d ds => exact Nat.not_lt.mpr (hdelays d (by simp [hd]))
  have hfails : ¬(s.pastDelay.down = true ∨ s.pastDelay.writesLeft = some 0) := by
    simp [pastDelay, hdown, hleft]
  rw [write_withinDeadline, if_neg htook, writeBatch, if_neg hfails]
  refine ⟨rfl, hdown, ?_, fun d hd => hdelays d (List.mem_of_mem_tail hd)⟩
  simp [pastDelay, hleft]

instance : LawfulStore MemoryStore where
  records := MemoryStore.records
  find_ok := eq_of_answer
  withStatus_ok := eq_of_answer
  all_ok := eq_of_answer
  write_ok h := by
    obtain ⟨-, hr⟩ | ⟨fault, hf, -⟩ := records_write _ _
    · exact hr
    · rw [hf] at h; cases h
  write_error h := by
    obtain ⟨ho, -⟩ | ⟨fault, -, hr⟩ := records_write _ _
    · rw [ho] at h; cases h
    · exact hr
  Works := Healthy
  find_works _ h := ⟨_, h.answer _⟩
  withStatus_works _ h := ⟨_, h.answer _⟩
  all_works h := ⟨_, h.answer _⟩
  write_works batch h := h.write batch

end MemoryStore

namespace World

variable {σ α : Type} [RecordStore σ] [LawfulStore σ]

def records (w : World σ) : Records :=
  LawfulStore.records w.store

/-- Time passes, and the store may begin or cease to fail; its records stay as they are. -/
def Drifts (w w' : World σ) : Prop :=
  w'.records = w.records ∧ w'.cache = w.cache ∧ w.time ≤ w'.time

/-- One step on the way of a program: the world drifts, or the program makes its next access. -/
inductive Step : World σ × Program α → World σ × Program α → Prop where
  | drift {w w' : World σ} (p : Program α) : w.Drifts w' → Step (w, p) (w', p)
  | access (w : World σ) (a : Access) (next : a.Answer → Program α) :
      Step (w, .step a next) ((w.answer a).2, next (w.answer a).1)

inductive Interleaved : World σ × List (Program α) → World σ × List (Program α) → Prop where
  | step {w w' : World σ} {threads : List (Program α)} {p p' : Program α} (i : Nat) :
      threads[i]? = some p → Step (w, p) (w', p') →
      Interleaved (w, threads) (w', threads.set i p')

omit [RecordStore σ] [LawfulStore σ] in
lemma holds_along {β : Type} {r : β → β → Prop} {P : β → Prop}
    (hstep : ∀ x y, r x y → P x → P y) {x y : β} (h : Relation.ReflTransGen r x y) (hx : P x) :
    P y := by
  induction h with
  | refl => exact hx
  | tail _ hone ih => exact hstep _ _ hone ih

lemma run_steps (w : World σ) (p : Program α) :
    Relation.ReflTransGen Step (w, p) ((w.run p).2, .done (w.run p).1) := by
  induction p generalizing w with
  | done a => exact .refl
  | step a next ih => exact .head (.access w a next) (ih _ _)

lemma interleaved_of_steps {w w' : World σ} {p p' : Program α} {threads : List (Program α)}
    (i : Nat) (hi : threads[i]? = some p) (h : Relation.ReflTransGen Step (w, p) (w', p')) :
    Relation.ReflTransGen Interleaved (w, threads) (w', threads.set i p') := by
  obtain ⟨hlt, hp⟩ := List.getElem?_eq_some_iff.mp hi
  have hlift : ∀ x y : World σ × Program α, Step x y →
      Interleaved (x.1, threads.set i x.2) (y.1, threads.set i y.2) := by
    rintro ⟨w₁, p₁⟩ ⟨w₂, p₂⟩ hstep
    have hone : Interleaved (w₁, threads.set i p₁) (w₂, (threads.set i p₁).set i p₂) :=
      .step i (List.getElem?_set_self hlt) hstep
    rwa [List.set_set] at hone
  have hall : Relation.ReflTransGen Interleaved (w, threads.set i p) (w', threads.set i p') :=
    h.lift (fun x => (x.1, threads.set i x.2)) hlift
  have hset : threads.set i p = threads := by
    rw [← hp, List.set_getElem_self]
  rwa [hset] at hall

omit [LawfulStore σ] in
def later (w : World σ) (pause : Nat) : World σ :=
  { w with time := w.time + pause }

omit [LawfulStore σ] in
/-- The next access of one of several programs; one that has ended stays as it is. -/
def turn (x : World σ × List (Program α)) (i : Nat) : World σ × List (Program α) :=
  match x.2[i]? with
  | some (.step a next) => ((x.1.answer a).2, x.2.set i (next (x.1.answer a).1))
  | _ => x

omit [LawfulStore σ] in
lemma length_turn (x : World σ × List (Program α)) (i : Nat) :
    (turn x i).2.length = x.2.length := by
  unfold turn
  split
  · exact List.length_set
  · rfl

omit [LawfulStore σ] in
lemma length_foldl_turn (x : World σ × List (Program α)) (schedule : List Nat) :
    (schedule.foldl turn x).2.length = x.2.length := by
  induction schedule generalizing x with
  | nil => rfl
  | cons i schedule ih => rw [List.foldl_cons, ih, length_turn]

lemma interleaved_turn (x : World σ × List (Program α)) {i : Nat} (hi : i < x.2.length) :
    Interleaved x (turn x i) := by
  have hp := List.getElem?_eq_getElem hi
  unfold turn
  rw [hp]
  cases h : x.2[i] with
  | step a next => exact .step i (hp.trans (congrArg some h)) (.access x.1 a next)
  | done a =>
    have hsame : x.2.set i (.done a) = x.2 := by rw [← h, List.set_getElem_self]
    have hstay : Interleaved x (x.1, x.2.set i (.done a)) :=
      .step i (hp.trans (congrArg some h)) (.drift _ ⟨rfl, rfl, Nat.le_refl _⟩)
    rwa [hsame] at hstay

lemma reaches_foldl_turn (x : World σ × List (Program α)) (schedule : List Nat)
    (h : ∀ i ∈ schedule, i < x.2.length) :
    Relation.ReflTransGen Interleaved x (schedule.foldl turn x) := by
  induction schedule generalizing x with
  | nil => exact .refl
  | cons i schedule ih =>
    obtain ⟨hi, hrest⟩ := List.forall_mem_cons.mp h
    refine .head (interleaved_turn x hi) (ih _ fun j hj => ?_)
    rw [length_turn]
    exact hrest j hj

omit [LawfulStore σ] in
lemma run_bind {β : Type} (w : World σ) (p : Program β) (f : β → Program α) :
    w.run (p >>= f) = (w.run p).2.run (f (w.run p).1) := by
  induction p generalizing w with
  | done b => rfl
  | step a next ih => exact ih _ _

lemma answer_loadList_of_works {w : World σ} (h : LawfulStore.Works w.store) (s : Status) :
    w.answer (.loadList s) = (.ok (w.records.withStatus s), w) := by
  obtain ⟨found, hf⟩ := LawfulStore.withStatus_works s h
  rw [answer, hf, LawfulStore.withStatus_ok hf]
  rfl

end World

end HstsPreload
