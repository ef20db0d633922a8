import HstsPreload.Proofs.Outcomes
import HstsPreload.Store.Table

/-!
# What the rows of a table mean

A row is read column by column, first for the types of its columns and then for its values. It
means a record, or something is wrong with it; reading tells which.
-/

namespace HstsPreload

open Column

lemma Status.ofText?_eq_some_iff {word : String} {s : Status} :
    ofText? word = some s ↔ s.text = word := by
  constructor
  · intro h
    have htext : (s.text == word) = true :=
      List.find?_some (p := fun t => Status.text t == word) h
    exact beq_iff_eq.mp htext
  · rintro rfl
    cases s <;> rfl

lemma Status.text_inj {s t : Status} : s.text = t.text ↔ s = t := by
  refine ⟨fun h => ?_, congrArg text⟩
  have hs := ofText?_eq_some_iff.mpr h
  rw [ofText?_eq_some_iff.mpr rfl] at hs
  exact (Option.some.inj hs).symm

namespace Row

/-- The date that the column of dates means. -/
inductive MeansDate : Option TextCell → Option Instant → Prop
  | empty : MeansDate none none
  | read {raw : String} {t : Instant} :
      Rfc3339.read raw = .ok t → MeansDate (some (.text raw)) (some t)

lemma MeansDate.exists_read {raw : String} {date : Option Instant}
    (h : MeansDate (some (.text raw)) date) : ∃ t, Rfc3339.read raw = .ok t := by
  cases h with
  | read hread => exact ⟨_, hread⟩

lemma MeansDate.exists_texts {cell : Option TextCell} {date : Option Instant}
    (h : MeansDate cell date) : ∃ raw : Option String, cell = raw.map .text := by
  cases h with
  | empty => exact ⟨none, rfl⟩
  | read hread => exact ⟨some _, rfl⟩

/-- What a row under its name means: each column is of its type, the status is the word of one, and
the date can be read. -/
structure Means (name : TextCell) (row : Row) (r : Record) : Prop where
  name : name = .text r.name
  status : row.status = .text r.status.text
  message : row.message = .text r.message
  submissionDate : MeansDate row.submissionDate r.submissionDate
  includeSubDomains : ∃ n, row.includeSubDomains = .integer n ∧ r.includeSubDomains = decide (n ≠ 0)
  policy : ∃ tag, row.policy = .text tag ∧ r.policy = .ofText tag

/-- What can be wrong with a row under its name. -/
inductive Malformed : TextCell → Row → Prop
  | name {bytes : List UInt8} {row : Row} : Malformed (.bytes bytes) row
  | status {name : TextCell} {row : Row} {bytes : List UInt8} :
      row.status = .bytes bytes → Malformed name row
  | message {name : TextCell} {row : Row} {bytes : List UInt8} :
      row.message = .bytes bytes → Malformed name row
  | submissionDate {name : TextCell} {row : Row} {bytes : List UInt8} :
      row.submissionDate = some (.bytes bytes) → Malformed name row
  | includeSubDomains {name : TextCell} {row : Row} :
      (∀ n, row.includeSubDomains ≠ .integer n) → Malformed name row
  | policy {name : TextCell} {row : Row} {bytes : List UInt8} :
      row.policy = .bytes bytes → Malformed name row
  | unknownStatus {name : TextCell} {row : Row} {word : String} :
      row.status = .text word → (∀ s : Status, s.text ≠ word) → Malformed name row
  | unreadableDate {name : TextCell} {row : Row} {raw : String} {fault : Rfc3339.Fault} :
      row.submissionDate = some (.text raw) → Rfc3339.read raw = .error fault →
      Malformed name row

variable {name : TextCell} {row : Row} {r : Record}

lemma Malformed.not_means (h : Malformed name row) : ¬Means name row r := by
  intro hm
  cases h with
  | name => exact nomatch hm.name
  | status h => exact nomatch h.symm.trans hm.status
  | message h => exact nomatch h.symm.trans hm.message
  | submissionDate h => exact nomatch h ▸ hm.submissionDate
  | includeSubDomains h =>
    obtain ⟨n, hn, -⟩ := hm.includeSubDomains
    exact h n hn
  | policy h =>
    obtain ⟨tag, htag, -⟩ := hm.policy
    exact nomatch h.symm.trans htag
  | unknownStatus h hunknown =>
    exact hunknown _ (TextCell.text.inj (hm.status.symm.trans h))
  | unreadableDate h hread =>
    obtain ⟨t, hok⟩ := (h ▸ hm.submissionDate).exists_read
    exact nomatch hread.symm.trans hok

lemma exists_means (h : ¬Malformed name row) : ∃ r, Means name row r := by
  -- one column after another can only hold what it should
  obtain ⟨status, message, date, flag, policy⟩ := row
  cases name with
  | bytes b => exact absurd .name h
  | text name =>
  cases status with
  | bytes b => exact absurd (.status rfl) h
  | text word =>
  cases message with
  | bytes b => exact absurd (.message rfl) h
  | text message =>
  cases policy with
  | bytes b => exact absurd (.policy rfl) h
  | text tag =>
  obtain ⟨s, hs⟩ : ∃ s : Status, s.text = word := by
    by_contra hno
    exact h (.unknownStatus rfl (not_exists.mp hno))
  obtain ⟨n, rfl⟩ : ∃ n, flag = .integer n := by
    by_contra hno
    exact h (.includeSubDomains (not_exists.mp hno))
  obtain ⟨t, ht⟩ : ∃ t, MeansDate date t := by
    cases date with
    | none => exact ⟨none, .empty⟩
    | some cell =>
      cases cell with
      | bytes b => exact absurd (.submissionDate rfl) h
      | text raw =>
        cases hread : Rfc3339.read raw with
        | ok t => exact ⟨some t, .read hread⟩
        | error fault => exact absurd (.unreadableDate rfl hread) h
  exact ⟨⟨name, s, message, t, decide (n ≠ 0), .ofText tag⟩, rfl, congrArg _ hs.symm, rfl, ht,
    ⟨n, rfl, rfl⟩, ⟨tag, rfl, rfl⟩⟩

lemma readText_eq_ok_iff {index : Nat} {column : String} {cell : TextCell} {s : String} :
    readText index column cell = .ok s ↔ cell = .text s := by
  cases cell with
  | text t =>
    exact ⟨fun h => congrArg _ (Except.ok.inj h), fun h => congrArg _ (TextCell.text.inj h)⟩
  | bytes b => exact iff_of_false (fun h => nomatch h) (fun h => nomatch h)

lemma readText?_eq_ok_iff {index : Nat} {column : String} {cell : Option TextCell}
    {s : Option String} :
    readText? index column cell = .ok s ↔ cell = s.map .text := by
  cases cell with
  | none => cases s <;> simp [readText?]
  | some cell => cases cell <;> cases s <;> simp [readText?, readText]

lemma readFlag_eq_ok_iff {cell : Cell} {b : Bool} :
    readFlag cell = .ok b ↔ ∃ n, cell = .integer n ∧ b = decide (n ≠ 0) := by
  cases cell with
  | integer n =>
    constructor
    · exact fun h => ⟨n, rfl, (Except.ok.inj h).symm⟩
    · rintro ⟨_, ⟨⟩, rfl⟩
      rfl
  | _ => exact iff_of_false (fun h => nomatch h) (fun h => nomatch h)

lemma readStatus_eq_ok_iff {name word : String} {s : Status} :
    readStatus name word = .ok s ↔ s.text = word := by
  rw [← Status.ofText?_eq_some_iff, readStatus]
  cases Status.ofText? word with
  | none => exact iff_of_false (fun h => nomatch h) (fun h => nomatch h)
  | some s =>
    exact ⟨fun h => congrArg some (Except.ok.inj h), fun h => congrArg _ (Option.some.inj h)⟩

lemma readDate_eq_ok_iff {name : String} {raw : Option String} {t : Option Instant} :
    readDate name raw = .ok t ↔ MeansDate (raw.map .text) t := by
  cases raw with
  | none =>
    constructor
    · rintro ⟨⟩
      exact .empty
    · rintro ⟨⟩
      rfl
  | some raw =>
    rw [readDate]
    constructor
    · intro h
      split at h <;> cases h
      next t hread => exact .read hread
    · rintro (_ | hread)
      rw [hread]

lemma toRecord_eq_ok_iff {name : String} : row.toRecord name = .ok r ↔ Means name row r := by
  unfold toRecord
  simp only [bind_eq_ok_iff, readText_eq_ok_iff, readText?_eq_ok_iff, readFlag_eq_ok_iff,
    readStatus_eq_ok_iff, readDate_eq_ok_iff]
  constructor
  · rintro ⟨word, hword, message, hmessage, raw, hraw, flag, hflag, tag, htag, s, rfl, t, ht, ⟨⟩⟩
    exact ⟨rfl, hword, hmessage, hraw ▸ ht, hflag, tag, htag, rfl⟩
  · rintro ⟨hname, hword, hmessage, hdate, hflag, tag, htag, hpolicy⟩
    obtain ⟨raw, hraw⟩ := hdate.exists_texts
    refine ⟨_, hword, _, hmessage, raw, hraw, _, hflag, tag, htag, _, rfl, _, hraw ▸ hdate, ?_⟩
    rw [← hpolicy, TextCell.text.inj hname]
    rfl

end Row

namespace Table

variable {name : TextCell} {row : Row}

lemma readRow_eq_ok_iff {r : Record} : readRow name row = .ok r ↔ row.Means name r := by
  rw [readRow, bind_eq_ok_iff]
  simp only [Row.readName, Row.readText_eq_ok_iff, Row.toRecord_eq_ok_iff]
  constructor
  · rintro ⟨n, rfl, h⟩
    exact h
  · intro h
    exact ⟨r.name, h.name, h.name ▸ h⟩

lemma exists_readRow_error_iff :
    (∃ fault, readRow name row = .error fault) ↔ row.Malformed name := by
  constructor
  · rintro ⟨fault, h⟩
    by_contra hno
    obtain ⟨r, hr⟩ := Row.exists_means hno
    exact nomatch h.symm.trans (readRow_eq_ok_iff.mpr hr)
  · intro hbad
    cases h : readRow name row with
    | error fault => exact ⟨fault, rfl⟩
    | ok r => exact absurd (readRow_eq_ok_iff.mp h) hbad.not_means

lemma find_of_some {t : Table} {domain : String} (h : t.rows[domain]? = some row) :
    RecordStore.find t domain = row.toRecord domain := by
  dsimp only [RecordStore.find]
  rw [h]

lemma find_of_none {t : Table} {domain : String} (h : t.rows[domain]? = none) :
    RecordStore.find t domain = .ok (.unseen domain) := by
  dsimp only [RecordStore.find]
  rw [h]

end Table

end HstsPreload
