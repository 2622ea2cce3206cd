import DocPull.Proofs.Csv
import DocPull.Published

/-!
# Published tables

A published table is read by rules that refuse nothing, so every body that was fetched has records.
One whose fields are all quoted has the records it was written from.
-/
namespace DocPull.Published

/-- For every table of non-empty records in whose fields no carriage return stands directly before a
line feed. Written with every field quoted and each record on a line of its own, however the lines
end, it reads back as it was. And no text whatsoever is refused. -/
theorem records_read_back :
    (∀ table : List (List Bytes × Bytes),
      (∀ p ∈ table, p.1 ≠ []) →
      (∀ p ∈ table, p.2 = utf8 "\r\n" ∨ p.2 = utf8 "\n") →
      (∀ p ∈ table, ∀ f ∈ p.1, ¬utf8 "\r\n" <:+: f) →
      records (Csv.write table) = .ok (table.map Prod.fst)) ∧
    ∀ body, ∃ rs, records body = .ok rs ∧ ∀ r ∈ rs, r ≠ [] := by
  constructor
  · intro table hne hends hfields
    rw [records, Csv.parse_write rfl hne hends hfields]
    rfl
  · intro body
    obtain ⟨rs, hparse, hrecords⟩ := @Csv.parse_ok tableRules rfl rfl body
    refine ⟨rs, ?_, hrecords⟩
    rw [records, hparse]
    rfl

/-- Records of different lengths, with separators, quotes and line breaks in their fields. -/
def sampleTable : List (List Bytes × Bytes) :=
  [(["a,b", "say \"hi\"", "two\nlines"], "\r\n"), ([""], "\n"), (["end\r", "\n\r"], "\r\n")]

theorem sampleTable_read_back :
    (∀ p ∈ sampleTable, p.1 ≠ []) ∧
    (∀ p ∈ sampleTable, p.2 = utf8 "\r\n" ∨ p.2 = utf8 "\n") ∧
    (∀ p ∈ sampleTable, ∀ f ∈ p.1, ¬utf8 "\r\n" <:+: f) ∧
    records (Csv.write sampleTable) = .ok (sampleTable.map Prod.fst) := by
  have hne : ∀ p ∈ sampleTable, p.1 ≠ [] := by decide
  have hends : ∀ p ∈ sampleTable, p.2 = utf8 "\r\n" ∨ p.2 = utf8 "\n" := by decide
  have hfields : ∀ p ∈ sampleTable, ∀ f ∈ p.1, ¬utf8 "\r\n" <:+: f := by decide
  exact ⟨hne, hends, hfields, records_read_back.1 sampleTable hne hends hfields⟩

end DocPull.Published
