import HstsPreload.Proofs.Coherence
import HstsPreload.Proofs.Rows

/-!
# The nearest ancestor that covers a domain

A domain lies under the names that its labels leave when they are taken off one after another. One
of which nothing is known takes its status from the first of them whose record can be read, is
preloaded and includes the subdomains. Looking at one name does not change what can be read of the
others, so the search sees all of them as they were when it began.
-/

namespace HstsPreload

open Program

namespace DomainName

/-- The names that are left of a domain when one label after another is taken off, nearest first. -/
inductive Above : String → List String → Prop where
  | top {domain : String} : parent? domain = none → Above domain []
  | under {domain parent : String} {chain : List String} :
      parent? domain = some parent → Above parent chain → Above domain (parent :: chain)

lemma parentChars_cons (c : Char) (rest : List Char) :
    parentChars (c :: rest) =
      if c = '.' then if rest = [] then none else some rest else parentChars rest := by
  unfold parentChars
  rw [Text.splitOnce]
  by_cases hc : c = '.'
  · rw [if_pos hc, if_pos hc]
    cases rest <;> rfl
  · rw [if_neg hc, if_neg hc]
    cases Text.splitOnce '.' rest with
    | none => rfl
    | some pieces => obtain ⟨before, _ | ⟨d, more⟩⟩ := pieces <;> rfl

lemma length_parentChars {cs parent : List Char} (h : parentChars cs = some parent) :
    parent.length < cs.length := by
  induction cs with
  | nil => cases h
  | cons c rest ih =>
    rw [parentChars_cons] at h
    split at h
    · split at h
      · cases h
      · cases h
        exact Nat.lt_succ_self _
    · exact Nat.lt_succ_of_lt (ih h)

lemma ancestorChars_eq (cs : List Char) : ancestorChars cs =
    match parentChars cs with
    | none => []
    | some parent => parent :: ancestorChars parent := by
  induction cs with
  | nil => rfl
  | cons c rest ih =>
    rw [ancestorChars, parentChars_cons]
    by_cases hc : c = '.'
    · rw [if_pos hc, if_pos hc]
      by_cases hrest : rest = []
      · rw [if_pos hrest, if_pos hrest]
      · rw [if_neg hrest, if_neg hrest]
    · rw [if_neg hc, if_neg hc, ih]

lemma above_ofList (cs : List Char) : Above (.ofList cs) ((ancestorChars cs).map .ofList) := by
  -- each name is shorter than the one below it
  induction h : cs.length using Nat.strong_induction_on generalizing cs with
  | _ n ih =>
    rw [ancestorChars_eq]
    cases hp : parentChars cs with
    | none =>
      apply Above.top
      rw [parent?, String.toList_ofList, hp, Option.map_none]
    | some parent =>
      apply Above.under
      · rw [parent?, String.toList_ofList, hp, Option.map_some]
      · exact ih parent.length (h ▸ length_parentChars hp) parent rfl

lemma above_ancestors (domain : String) : Above domain (ancestors domain) := by
  have h := above_ofList domain.toList
  rwa [String.ofList_toList] at h

end DomainName

/-- The first name of a chain that has a property. -/
def FirstOf (P : String → Prop) (chain : List String) (name : String) : Prop :=
  ∃ before after, chain = before ++ name :: after ∧ P name ∧ ∀ b ∈ before, ¬P b

namespace FirstOf

variable {P : String → Prop} {chain : List String} {name : String}

lemma head (h : P name) : FirstOf P (name :: chain) name :=
  ⟨[], chain, rfl, h, by simp⟩

lemma cons {b : String} (hb : ¬P b) (h : FirstOf P chain name) : FirstOf P (b :: chain) name := by
  obtain ⟨before, after, rfl, hname, hbefore⟩ := h
  exact ⟨b :: before, after, rfl, hname, List.forall_mem_cons.mpr ⟨hb, hbefore⟩⟩

lemma unique {other : String} (h : FirstOf P chain name) (h' : FirstOf P chain other) :
    name = other := by
  obtain ⟨before, after, rfl, hname, hbefore⟩ := h
  obtain ⟨before', after', hchain, hother, hbefore'⟩ := h'
  rcases List.append_eq_append_iff.mp hchain with ⟨more, rfl, hmore⟩ | ⟨more, rfl, hmore⟩
  · cases more with
    | nil => exact (List.cons.inj hmore).1
    | cons b more =>
      obtain ⟨rfl, -⟩ := List.cons.inj hmore
      exact (hbefore' name (by simp) hname).elim
  · cases more with
    | nil => exact (List.cons.inj hmore).1.symm
    | cons b more =>
      obtain ⟨rfl, -⟩ := List.cons.inj hmore
      exact (hbefore other (by simp) hother).elim

lemma mem (h : FirstOf P chain name) : name ∈ chain := by
  obtain ⟨before, after, rfl, -⟩ := h
  simp

lemma prop (h : FirstOf P chain name) : P name := by
  obtain ⟨before, after, -, hname, -⟩ := h
  exact hname

end FirstOf

/-- What a search for the first name with a property ends with. -/
inductive FoundIn (P : String → Prop) (chain : List String) : Option String → Prop where
  | some {name : String} : FirstOf P chain name → FoundIn P chain (some name)
  | none : (∀ name ∈ chain, ¬P name) → FoundIn P chain none

namespace FoundIn

variable {P : String → Prop} {chain : List String} {found : Option String}

lemma cons {b : String} (hb : ¬P b) (h : FoundIn P chain found) : FoundIn P (b :: chain) found := by
  cases h with
  | some hfirst => exact .some (hfirst.cons hb)
  | none hnone => exact .none (List.forall_mem_cons.mpr ⟨hb, hnone⟩)

lemma eq_some_iff (h : FoundIn P chain found) {name : String} :
    found = Option.some name ↔ FirstOf P chain name := by
  cases h with
  | some hfirst =>
    rw [Option.some.injEq]
    exact ⟨fun heq => heq ▸ hfirst, hfirst.unique⟩
  | none hnone =>
    exact iff_of_false (by simp) fun h => hnone name h.mem h.prop

end FoundIn

namespace World

variable {σ : Type} [RecordStore σ]

/-- Whatever the store and the cache give for a domain is its one record. Either may give
nothing. -/
structure Holds (w : World σ) (stored : String → Record) : Prop where
  name (domain : String) : (stored domain).name = domain
  find {domain : String} {r : Record} : RecordStore.find w.store domain = .ok r → r = stored domain
  cached {domain : String} {kept : Kept Record} :
    w.cache.byDomain[domain]? = some kept → kept.value = stored domain

/-- The record of a domain can be read, from the cache or from the store. -/
def Readable (w : World σ) (domain : String) : Prop :=
  (∃ r, w.cache.find? w.time domain = some r) ∨ ∃ r, RecordStore.find w.store domain = .ok r

lemma Coherent.holds [LawfulStore σ] {w : World σ} (hc : w.Coherent) (hk : w.records.Keyed) :
    w.Holds w.records.get where
  name := hk.name_get
  find := LawfulStore.find_ok
  cached hkept := (hc.byDomain _ _ hkept).symm

/-- A world in which the same is stored and the same can be read. -/
structure Resembles (stored : String → Record) (w' w : World σ) : Prop where
  holds : w'.Holds stored
  readable (domain : String) : w'.Readable domain ↔ w.Readable domain

end World

lemma Cache.find?_keep {c : Cache} {time : Nat} {generation : UInt64} {r : Record}
    {domain : String} (hne : r.name ≠ domain) :
    (c.keep time generation r).find? time domain = c.find? time domain := by
  unfold keep
  split
  · have hstays : ((c.byDomain.filter fun _ k => (k.fresh? c.ttl time).isSome).insert r.name
        ⟨r, time⟩)[domain]? = (c.byDomain[domain]?).filter fun k => (k.fresh? c.ttl time).isSome := by
      rw [Std.ExtTreeMap.getElem?_insert, if_neg, Std.ExtTreeMap.getElem?_filter']
      exact fun heq => hne (Std.LawfulEqOrd.eq_of_compare heq)
    unfold find?
    dsimp only [isEnabled]
    rw [hstays]
    cases c.byDomain[domain]? with
    | none => rfl
    | some kept => cases hfresh : kept.fresh? c.ttl time <;> simp [Option.filter, hfresh]
  · rfl

section Reading

variable {σ : Type} [RecordStore σ] {stored : String → Record} {w : World σ}

namespace World

lemma Holds.resembles_self (hw : w.Holds stored) : w.Resembles stored w :=
  ⟨hw, fun _ => Iff.rfl⟩

lemma Holds.resembles_keep (hw : w.Holds stored) {domain : String} (generation : UInt64)
    (h : RecordStore.find w.store domain = .ok (stored domain)) :
    { w with cache := w.cache.keep w.time generation (stored domain) }.Resembles stored w := by
  refine ⟨⟨hw.name, hw.find, fun {other kept} hkept => ?_⟩, fun other => ?_⟩
  · rcases Cache.of_byDomain_keep hkept with hold | ⟨-, hname, hvalue⟩
    · exact hw.cached hold
    · rw [hvalue, ← hname, hw.name]
  · by_cases hother : domain = other
    · have hread : ∃ r, RecordStore.find w.store other = .ok r := ⟨_, hother ▸ h⟩
      exact iff_of_true (.inr hread) (.inr hread)
    · have hne : (stored domain).name ≠ other := by rwa [hw.name]
      unfold Readable
      rw [Cache.find?_keep hne]

/-- The name covers the domains below it, as far as it can be read. -/
def Covering (w : World σ) (stored : String → Record) (name : String) : Prop :=
  w.Readable name ∧ (stored name).status = .preloaded ∧ (stored name).includeSubDomains = true

lemma Resembles.covering {w' : World σ} (h : w'.Resembles stored w) :
    w'.Covering stored = w.Covering stored := by
  funext name
  rw [Covering, h.readable]
  rfl

open Registry

lemma run_cachedRecord_of_some {domain : String} {r : Record}
    (h : w.cache.find? w.time domain = some r) : w.run (cachedRecord domain) = (.ok r, w) := by
  have hcached : w.run (access (.cached domain)) = (some r, w) := congrArg (·, w) h
  rw [cachedRecord, run_bind, hcached]
  rfl

lemma run_cachedRecord_of_none {domain : String} (h : w.cache.find? w.time domain = none) :
    w.run (cachedRecord domain) =
      match RecordStore.find w.store domain with
      | .error fault => (.error fault, w)
      | .ok r => (.ok r, { w with cache := w.cache.keep w.time w.cache.generation r }) := by
  have hcached : w.run (access (.cached domain)) = (none, w) := congrArg (·, w) h
  have hgeneration : w.run (access .generation) = (w.cache.generation, w) := rfl
  have hload : w.run (access (.load domain)) = (RecordStore.find w.store domain, w) := rfl
  rw [cachedRecord, run_bind, hcached]
  dsimp only
  rw [run_bind, hgeneration]
  dsimp only
  rw [run_bind, hload]
  cases RecordStore.find w.store domain <;> rfl

/-- A domain that can be read is answered with its record, another one with a fault. -/
lemma Holds.run_cachedRecord (hw : w.Holds stored) (domain : String) :
    (w.run (cachedRecord domain)).2.Resembles stored w ∧
      (w.Readable domain ∧ (w.run (cachedRecord domain)).1 = .ok (stored domain) ∨
        ¬w.Readable domain ∧ ∃ fault, (w.run (cachedRecord domain)).1 = .error fault) := by
  cases hcached : w.cache.find? w.time domain with
  | some r =>
    rw [run_cachedRecord_of_some hcached]
    obtain ⟨kept, hkept, rfl⟩ := Cache.exists_of_find? hcached
    refine ⟨hw.resembles_self, .inl ⟨.inl ⟨_, hcached⟩, ?_⟩⟩
    exact congrArg Except.ok (hw.cached hkept)
  | none =>
    rw [run_cachedRecord_of_none hcached]
    cases hfind : RecordStore.find w.store domain with
    | ok r =>
      obtain rfl := hw.find hfind
      exact ⟨hw.resembles_keep _ hfind, .inl ⟨.inr ⟨_, hfind⟩, rfl⟩⟩
    | error fault =>
      refine ⟨hw.resembles_self, .inr ⟨?_, fault, rfl⟩⟩
      rintro (⟨r, hr⟩ | ⟨r, hr⟩)
      · rw [hcached] at hr
        cases hr
      · rw [hfind] at hr
        cases hr

lemma Holds.run_coveringAmong (hw : w.Holds stored) (candidates : List String) :
    FoundIn (w.Covering stored) candidates (w.run (coveringAmong candidates)).1 := by
  induction candidates generalizing w with
  | nil => exact .none (by simp)
  | cons candidate more ih =>
    obtain ⟨hsame, hread⟩ := hw.run_cachedRecord candidate
    have hmore := ih hsame.holds
    rw [hsame.covering] at hmore
    unfold coveringAmong
    rw [run_bind]
    obtain ⟨hreadable, hread⟩ | ⟨hunreadable, fault, hread⟩ := hread
    · rw [hread]
      dsimp only
      split
      · next hcovers => exact .some (.head ⟨hreadable, hcovers⟩)
      · next hcovers => exact hmore.cons fun h => hcovers h.2
    · rw [hread]
      exact hmore.cons fun h => hunreadable h.1

end World

namespace Registry

/-- What is told of a domain with the record `own`, when the search among the names above it has
ended with `found`. -/
def told (own : Record) (found : Option String) : StatusView :=
  if own.status = .unknown then
    match found with
    | some ancestor => ⟨{ own with status := .preloaded }, own.isBulk, some ancestor⟩
    | none => ⟨own, own.isBulk, none⟩
  else if own.status = .preloaded then ⟨own, own.isBulk, some own.name⟩
  else ⟨own, own.isBulk, none⟩

end Registry

open Registry

lemma World.Holds.run_status (hw : w.Holds stored) {domain : String} (h : w.Readable domain) :
    ∃ found, FoundIn (w.Covering stored) (DomainName.ancestors domain) found ∧
      (w.run (status domain)).1 = .ok (told (stored domain) found) := by
  obtain ⟨hsame, ⟨-, hread⟩ | ⟨hunreadable, -⟩⟩ := hw.run_cachedRecord domain
  · have hfound := hsame.holds.run_coveringAmong (DomainName.ancestors domain)
    rw [hsame.covering] at hfound
    refine ⟨_, hfound, ?_⟩
    rw [status, run_bind, hread]
    have hname := hw.name domain
    generalize stored domain = own at hname ⊢
    subst hname
    dsimp only
    unfold told
    by_cases hunknown : own.status = .unknown
    · rw [if_pos hunknown, if_pos hunknown, run_bind]
      cases (World.run (w.run (cachedRecord own.name)).2 (coveringAmong _)).1 <;> rfl
    · rw [if_neg hunknown, if_neg hunknown]
      by_cases hpreloaded : own.status = .preloaded
      · rw [if_pos hpreloaded, if_pos hpreloaded]
        rfl
      · rw [if_neg hpreloaded, if_neg hpreloaded]
        rfl
  · exact (hunreadable h).elim

/-- A domain whose record can be read is told of under its own name and with its own record. If its
status is known, only the domain itself can cover it, and does if it is preloaded. If nothing is
known of it, the first of the names above it that can be read, is preloaded and includes the
subdomains makes it preloaded, and otherwise it stays unknown. -/
theorem Registry.status_finds_nearest_ancestor (w : World σ) (stored : String → Record)
    (hw : w.Holds stored) (domain : String) (h : w.Readable domain) :
    ∃ view chain, (w.run (status domain)).1 = .ok view ∧ DomainName.Above domain chain ∧
      view.record.name = domain ∧
      view.record = { stored domain with status := view.record.status } ∧
      view.bulk = (stored domain).isBulk ∧
      ((stored domain).status ≠ .unknown → view.record = stored domain ∧
        ∀ a, view.preloadedDomain = some a ↔ (stored domain).status = .preloaded ∧ a = domain) ∧
      ((stored domain).status = .unknown →
        (∀ a, view.record.status = .preloaded ∧ view.preloadedDomain = some a ↔
          FirstOf (w.Covering stored) chain a) ∧
        ((∀ a ∈ chain, ¬w.Covering stored a) →
          view.record.status = .unknown ∧ view.preloadedDomain = none)) := by
  obtain ⟨found, hfound, hview⟩ := hw.run_status h
  refine ⟨told (stored domain) found, _, hview, DomainName.above_ancestors domain, ?_⟩
  have hname := hw.name domain
  generalize stored domain = own at hname ⊢
  subst hname
  unfold told
  by_cases hunknown : own.status = .unknown
  · rw [if_pos hunknown]
    refine ⟨?_, ?_, ?_, fun hne => (hne hunknown).elim, fun _ => ⟨fun a => ?_, fun hnone => ?_⟩⟩
    · cases found <;> rfl
    · cases found <;> rfl
    · cases found <;> rfl
    · rw [← hfound.eq_some_iff]
      cases found with
      | some found => exact and_iff_right rfl
      | none => exact iff_of_false (fun h => by cases h.2) (by simp)
    · cases hfound with
      | some hfirst => exact (hnone _ hfirst.mem hfirst.prop).elim
      | none _ => exact ⟨hunknown, rfl⟩
  · rw [if_neg hunknown]
    by_cases hpreloaded : own.status = .preloaded
    · rw [if_pos hpreloaded]
      refine ⟨rfl, rfl, rfl, fun _ => ⟨rfl, fun a => ?_⟩, fun h => (hunknown h).elim⟩
      rw [Option.some.injEq, eq_comm]
      exact (and_iff_right hpreloaded).symm
    · rw [if_neg hpreloaded]
      refine ⟨rfl, rfl, rfl, fun _ => ⟨rfl, fun a => ?_⟩, fun h => (hunknown h).elim⟩
      exact iff_of_false (by simp) fun h => hpreloaded h.1

end Reading

namespace Table

lemma name_of_find {t : Table} {domain : String} {r : Record}
    (h : RecordStore.find t domain = .ok r) : r.name = domain := by
  dsimp only [RecordStore.find] at h
  split at h
  · exact (Column.TextCell.text.inj (Row.toRecord_eq_ok_iff.mp h).name).symm
  · cases h
    rfl

/-- The record that a table gives for a domain, or an unknown one in place of a fault. -/
def stored (t : Table) (domain : String) : Record :=
  match RecordStore.find t domain with
  | .ok r => r
  | .error _ => .unseen domain

lemma holds_stored (t : Table) : ({ store := t } : World Table).Holds t.stored := by
  refine ⟨fun domain => ?_, fun {domain r} h => ?_, fun {domain kept} h => ?_⟩
  · unfold stored
    cases hfind : RecordStore.find t domain with
    | error fault => rfl
    | ok r => exact name_of_find hfind
  · have hfind : RecordStore.find t domain = .ok r := h
    rw [stored, hfind]
  · simp at h

/-- A covered domain below a name whose row means nothing. -/
def partlyCorrupt : Table where
  rows := (∅ : Std.ExtTreeMap String Row).insertMany
    [("example", ⟨"preloaded", "", none, .integer 1, ""⟩),
      ("b.example", ⟨"lost", "", none, .integer 1, ""⟩)]

theorem status_passes_over_corrupt_row :
    let w : World Table := { store := partlyCorrupt }
    ¬w.Readable "b.example" ∧ ∃ chain, DomainName.Above "a.b.example" chain ∧
      FirstOf (w.Covering partlyCorrupt.stored) chain "example" ∧
      (w.run (Registry.status "a.b.example")).1 =
        .ok ⟨{ name := "a.b.example", status := .preloaded }, false, some "example"⟩ := by
  intro w
  have hown : w.Readable "a.b.example" := .inr ⟨.unseen "a.b.example", rfl⟩
  obtain ⟨view, chain, hview, hchain, -, -, -, -, hunknown⟩ :=
    Registry.status_finds_nearest_ancestor w partlyCorrupt.stored (holds_stored _) "a.b.example" hown
  have hrun : (w.run (Registry.status "a.b.example")).1 =
      .ok ⟨{ name := "a.b.example", status := .preloaded }, false, some "example"⟩ := rfl
  refine ⟨?_, chain, hchain, ?_, hrun⟩
  · rintro (⟨r, hr⟩ | ⟨r, hr⟩) <;> cases hr
  · rw [hrun] at hview
    cases hview
    exact ((hunknown rfl).1 "example").mp ⟨rfl, rfl⟩

end Table

end HstsPreload
