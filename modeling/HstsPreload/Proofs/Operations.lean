import HstsPreload.Proofs.Decisions
import HstsPreload.Proofs.Writing

/-!
# The operations that write

Submissions, removal requests, updates and the debug operation as programs with one type of
answer, so that they can be interleaved and follow each other. A rule for each says what it may
write, and on which record the decision rests; that record may have been read before others
wrote.
-/

namespace HstsPreload

open Program

/-- An operation on the registry that may write to its store. -/
inductive Operation where
  | submit (domain : String)
  | remove (domain : String)
  | setPreloaded (domain : String)
  | update
  deriving DecidableEq

inductive Reply where
  | decided (answer : Except RegistryFault Issues)
  | set (issues : Issues)
  | updated (report : UpdateReport)

namespace Operation

def program (reg : Registry) : Operation → Program Reply
  | submit domain => do return .decided (← reg.submit domain)
  | remove domain => do return .decided (← reg.remove domain)
  | setPreloaded domain => do return .set (← reg.setPreloaded domain)
  | update => do return .updated (← reg.update)

/-- The domain that an operation is about; an update is about all of them. -/
def domain? : Operation → Option String
  | submit domain | remove domain | setPreloaded domain => some domain
  | update => none

/-- The one record that an operation decides to write for its domain when it has read `rs`; an
update has a plan instead. -/
def Decides (reg : Registry) (rs : Records) (r : Record) : Operation → Prop
  | submit domain => (reg.scanner.preloadable domain).hasErrors = false ∧
    (rs.get domain).onSubmit true reg.now = .accept r
  | remove domain => (reg.scanner.removable domain).hasErrors = false ∧
    (rs.get domain).onRemove reg.now = .accept r
  | setPreloaded domain => r = { name := domain, status := .preloaded }
  | update => False

lemma Decides.domain?_eq {reg : Registry} {op : Operation} {rs : Records} {r : Record}
    (h : op.Decides reg rs r) (hk : rs.Keyed) : op.domain? = some r.name := by
  cases op with
  | submit domain =>
    rw [(Record.onSubmit_accept h.2).1]
    exact congrArg some (hk.name_get domain).symm
  | remove domain =>
    rw [(Record.onRemove_accept h.2).1]
    exact congrArg some (hk.name_get domain).symm
  | setPreloaded domain =>
    rw [Decides] at h
    rw [h]
    rfl
  | update => exact h.elim

end Operation

section Decisions

variable {c : Contract} {reg : Registry} {rs : Records}

lemma Registry.keeps_persist_then {α : Type} (hb : reg.Batched) (r : Record)
    {next : Except StoreFault Unit → Program α}
    (hwrite : ∀ rs', c.rely rs rs' → c.guarantee rs' (rs'.put r))
    (hnext : ∀ rs' outcome, (next outcome).Keeps c (fun _ _ => True) rs') :
    (reg.persist r >>= next).Keeps c (fun _ _ => True) rs := by
  have hpersist : (reg.persist r).Keeps c (fun _ _ => True) rs :=
    keeps_persist hb r (fun rs' hr => ⟨hwrite rs' hr, fun _ _ => trivial⟩) fun _ _ _ => trivial
  exact hpersist.bind fun rs' outcome _ => hnext rs' outcome

lemma Registry.keeps_submit (hb : reg.Batched) (domain : String)
    (hwrite : ∀ rs₁ rs₂ r, c.rely rs rs₁ → c.rely rs₁ rs₂ →
      (Operation.submit domain).Decides reg rs₁ r → c.guarantee rs₂ (rs₂.put r)) :
    (reg.submit domain).Keeps c (fun _ _ => True) rs := by
  unfold submit
  dsimp only
  split
  · refine Keeps.load (fun rs₁ h₁ => ?_) fun rs₁ fault h₁ => Keeps.pure fun _ _ => trivial
    dsimp only
    split <;> exact Keeps.pure fun _ _ => trivial
  · next hclean =>
    refine Keeps.load (fun rs₁ h₁ => ?_) fun rs₁ fault h₁ => Keeps.pure fun _ _ => trivial
    dsimp only
    split
    · next r haccept =>
      refine keeps_persist_then hb r (fun rs₂ h₂ => ?_) fun rs' outcome => ?_
      · exact hwrite rs₁ rs₂ r h₁ h₂ ⟨eq_false_of_ne_true hclean, haccept⟩
      · cases outcome <;> exact Keeps.pure fun _ _ => trivial
    · exact Keeps.pure fun _ _ => trivial
    · exact Keeps.pure fun _ _ => trivial

lemma Registry.keeps_remove (hb : reg.Batched) (domain : String)
    (hwrite : ∀ rs₁ rs₂ r, c.rely rs rs₁ → c.rely rs₁ rs₂ →
      (Operation.remove domain).Decides reg rs₁ r → c.guarantee rs₂ (rs₂.put r)) :
    (reg.remove domain).Keeps c (fun _ _ => True) rs := by
  unfold remove
  dsimp only
  split
  · exact Keeps.pure fun _ _ => trivial
  · next hclean =>
    refine Keeps.load (fun rs₁ h₁ => ?_) fun rs₁ fault h₁ => Keeps.pure fun _ _ => trivial
    dsimp only
    split
    · next r haccept =>
      refine keeps_persist_then hb r (fun rs₂ h₂ => ?_) fun rs' outcome => ?_
      · exact hwrite rs₁ rs₂ r h₁ h₂ ⟨eq_false_of_ne_true hclean, haccept⟩
      · cases outcome <;> exact Keeps.pure fun _ _ => trivial
    · exact Keeps.pure fun _ _ => trivial
    · exact Keeps.pure fun _ _ => trivial

/-- A rule for the operations on one domain: what they write is what they decided, though by
then others may have written too. -/
theorem Operation.keeps_decided (hb : reg.Batched) (op : Operation) (hop : op ≠ .update)
    (hwrite : ∀ rs₁ rs₂ r, c.rely rs rs₁ → c.rely rs₁ rs₂ → op.Decides reg rs₁ r →
      c.guarantee rs₂ (rs₂.put r)) :
    (op.program reg).Keeps c (fun _ _ => True) rs := by
  cases op with
  | submit domain =>
    exact (Registry.keeps_submit hb domain hwrite).bind fun _ _ _ => Keeps.pure fun _ _ => trivial
  | remove domain =>
    exact (Registry.keeps_remove hb domain hwrite).bind fun _ _ _ => Keeps.pure fun _ _ => trivial
  | setPreloaded domain =>
    have hset : (reg.setPreloaded domain).Keeps c (fun _ _ => True) rs := by
      unfold Registry.setPreloaded
      refine Registry.keeps_persist_then hb _ (fun rs₂ h₂ => ?_) fun rs' outcome => ?_
      · exact hwrite rs rs₂ _ (c.rely_refl rs) h₂ rfl
      · cases outcome <;> exact Keeps.pure fun _ _ => trivial
    exact hset.bind fun _ _ _ => Keeps.pure fun _ _ => trivial
  | update => exact (hop rfl).elim

end Decisions

end HstsPreload
