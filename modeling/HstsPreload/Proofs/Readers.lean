import HstsPreload.Json.Record
import HstsPreload.Proofs.Outcomes

/-!
# What holds of whatever is read

Members are read one after another into a draft, and items into a list. What holds of the draft at
the start and is kept by reading each member holds of the draft that is read, whatever else there
is in the text; and what holds of each item that is read holds of all items of a list.
-/

namespace HstsPreload.Json

variable {α σ : Type}

/-- Whatever a reader gives satisfies `P`. -/
def Gives (P : α → Prop) (read : Reader α) : Prop :=
  ∀ (cs rest : List Char) (a : α), read cs = .ok (a, rest) → P a

lemma exists_of_readAll {read : Reader α} {text : String} {a : α}
    (h : readAll read text = .ok a) : ∃ rest, read text.toList = .ok (a, rest) := by
  unfold readAll at h
  dsimp only at h
  split at h
  · cases h
  · next value rest hread =>
    split at h
    · cases h
      exact ⟨rest, hread⟩
    · cases h

lemma refuseType_ne_ok {expected : String} {cs : List Char} (result : α × List Char) :
    refuseType expected cs ≠ .ok result := by
  unfold refuseType
  split
  case h_7 => split <;> simp [bind_eq_ok_iff]
  all_goals simp [bind_eq_ok_iff]

section Lists

variable {P : α → Prop} {read : Reader α}

lemma Gives.readItems (h : Gives P read) {fuel : Nat} {done items : List α}
    {cs rest : List Char} (hdone : ∀ a ∈ done, P a)
    (hr : Json.readItems read fuel done cs = .ok (items, rest)) : ∀ a ∈ items, P a := by
  induction fuel generalizing done cs with
  | zero =>
    cases hr
    simpa using hdone
  | succ fuel ih =>
    rw [Json.readItems] at hr
    obtain ⟨⟨next, unread⟩, -, hr⟩ := exists_of_bind_ok hr
    cases next with
    | none =>
      cases hr
      simpa using hdone
    | some item =>
      obtain ⟨⟨a, more⟩, hread, hr⟩ := exists_of_bind_ok hr
      exact ih (List.forall_mem_cons.mpr ⟨h _ _ _ hread, hdone⟩) hr

lemma Gives.readList (h : Gives P read) :
    Gives (fun items => ∀ a ∈ items, P a) (Json.readList read) := by
  intro cs rest items hr
  unfold Json.readList at hr
  split at hr
  · obtain ⟨⟨found, more⟩, hitems, hr⟩ := exists_of_bind_ok hr
    obtain ⟨past, -, hr⟩ := exists_of_bind_ok hr
    cases hr
    exact h.readItems (by simp) hitems
  · exact (refuseType_ne_ok _ hr).elim

end Lists

/-- Reading a member into a draft keeps what holds of the draft. -/
def Member.Keeps (P : σ → Prop) (m : Member σ) : Prop :=
  ∀ (d d' : σ) (cs rest : List Char), P d → m.read d cs = .ok (d', rest) → P d'

lemma Member.keeps_field {P : σ → Prop} {Q : α → Prop} {get : σ → Option α} {set : σ → α → σ}
    {read : Reader α} (key : String) (required : Bool) (hgives : Gives Q read)
    (hset : ∀ d a, P d → Q a → P (set d a)) : (Member.field key required get set read).Keeps P := by
  intro d d' cs rest hd h
  obtain ⟨⟨a, more⟩, hread, h⟩ := exists_of_bind_ok h
  cases h
  exact hset d a hd (hgives _ _ _ hread)

lemma Member.keeps_field_of_set {P : σ → Prop} {get : σ → Option α} {set : σ → α → σ}
    {read : Reader α} (key : String) (required : Bool) (hset : ∀ d a, P d → P (set d a)) :
    (Member.field key required get set read).Keeps P :=
  have hany : Gives (fun _ => True) read := fun _ _ _ _ => trivial
  keeps_field key required hany fun d a hd _ => hset d a hd

namespace RecordKind

variable {kind : RecordKind σ} {P : σ → Prop}

lemma keeps_readMembers
    (hread : ∀ m ∈ kind.members, ∀ (d d' : σ) (cs rest : List Char), m.present d = false → P d →
      m.read d cs = .ok (d', rest) → P d')
    {fuel : Nat} {first : Bool} {d d' : σ} {cs rest : List Char} (hd : P d)
    (h : kind.readMembers fuel first d cs = .ok (d', rest)) : P d' := by
  induction fuel generalizing first d cs with
  | zero =>
    cases h
    exact hd
  | succ fuel ih =>
    rw [readMembers] at h
    obtain ⟨⟨next, unread⟩, -, h⟩ := exists_of_bind_ok h
    cases next with
    | none =>
      dsimp only at h
      split at h
      · cases h
      · cases h
        exact hd
    | some key =>
      obtain ⟨⟨k, cs'⟩, -, h⟩ := exists_of_bind_ok h
      dsimp only at h
      split at h
      · -- a member that is passed over
        obtain ⟨value, -, h⟩ := exists_of_bind_ok h
        obtain ⟨more, -, h⟩ := exists_of_bind_ok h
        exact ih hd h
      · next m hm =>
        split_ifs at h with hpresent
        obtain ⟨value, -, h⟩ := exists_of_bind_ok h
        obtain ⟨⟨d₁, more⟩, hmember, h⟩ := exists_of_bind_ok h
        have hfresh : m.present d = false := Bool.eq_false_iff.mpr hpresent
        exact ih (hread m (List.mem_of_find?_eq_some hm) _ _ _ _ hfresh hd hmember) h

lemma keeps_readElements {members : List (Member σ)} (hread : ∀ m ∈ members, m.Keeps P)
    {index : Nat} {d d' : σ} {cs rest : List Char} (hd : P d)
    (h : kind.readElements d index members cs = .ok (d', rest)) : P d' := by
  induction members generalizing index d cs with
  | nil =>
    cases h
    exact hd
  | cons m more ih =>
    obtain ⟨hm, hmore⟩ := List.forall_mem_cons.mp hread
    rw [readElements] at h
    obtain ⟨⟨next, unread⟩, -, h⟩ := exists_of_bind_ok h
    cases next with
    | some item =>
      obtain ⟨⟨d₁, left⟩, hmember, h⟩ := exists_of_bind_ok h
      exact ih hmore (hm _ _ _ _ hd hmember) h
    | none =>
      dsimp only at h
      split at h
      · cases h
      · exact ih hmore hd h

theorem gives_read (hempty : P kind.empty) (hread : ∀ m ∈ kind.members, m.Keeps P) :
    Gives P kind.read := by
  intro cs rest d h
  unfold RecordKind.read at h
  split at h
  · refine keeps_readMembers (fun m hm d d' cs rest _ hd hr => ?_) hempty h
    exact hread m hm d d' cs rest hd hr
  · obtain ⟨⟨d₁, more⟩, helements, h⟩ := exists_of_bind_ok h
    obtain ⟨past, -, h⟩ := exists_of_bind_ok h
    cases h
    exact keeps_readElements hread hempty helements
  · exact (refuseType_ne_ok _ h).elim

end RecordKind

end HstsPreload.Json
