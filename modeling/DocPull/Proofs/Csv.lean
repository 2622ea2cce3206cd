import DocPull.Csv
import DocPull.Proofs.Text.Line
import Mathlib.Tactic

/-!
# Tables read back

Between quotes every byte but a quote stands for itself, and a quote is written twice, so a table
whose fields are all quoted reads back as it was, whatever the fields hold. One thing is lost: a
carriage return directly before a line feed, which is taken for a line end inside a field, too.
-/
namespace DocPull.Csv

/-- What stands between the quotes of a field, the quotes inside it written twice. -/
def inQuotes (f : Bytes) : Bytes := f.flatMap fun b => if b = byte '"' then [b, b] else [b]

/-- A field between quotes. -/
def quoteField (f : Bytes) : Bytes := byte '"' :: (inQuotes f ++ [byte '"'])

/-- A record with every field quoted, before its line end. -/
def writeRecord (record : List Bytes) : Bytes := Bytes.join "," (record.map quoteField)

/-- Records with every field quoted, each with its own line end. -/
def write (records : List (List Bytes × Bytes)) : Bytes :=
  records.flatMap fun (record, lineEnd) => writeRecord record ++ lineEnd

section Lines

theorem normalizeLines_go (done s : Bytes) :
    normalizeLines.go done s = done.reverse ++ normalizeLines s := by
  rw [normalizeLines]
  induction s generalizing done with
  | nil => simp [normalizeLines.go]
  | cons b s ih =>
    cases s with
    | nil => by_cases hb : b = 13 <;> simp [normalizeLines.go, hb]
    | cons c s =>
      rw [normalizeLines.go, normalizeLines.go]
      split_ifs
      · exact ih done
      · rw [ih (b :: done), ih [b]]
        simp

theorem normalizeLines_cons {b : UInt8} (h : b ≠ 13) (s : Bytes) :
    normalizeLines (b :: s) = b :: normalizeLines s := by
  cases s with
  | nil => simp [normalizeLines, normalizeLines.go, h]
  | cons c s =>
    rw [normalizeLines, normalizeLines.go, if_neg (fun hb => h hb.1), normalizeLines_go]
    rfl

theorem normalizeLines_return {c : UInt8} (h : c ≠ 10) (s : Bytes) :
    normalizeLines (13 :: c :: s) = 13 :: normalizeLines (c :: s) := by
  rw [normalizeLines, normalizeLines.go, if_neg (fun hc => h hc.2), normalizeLines_go]
  rfl

theorem normalizeLines_lineEnd (s : Bytes) :
    normalizeLines (13 :: 10 :: s) = 10 :: normalizeLines s := by
  rw [normalizeLines, normalizeLines.go, if_pos ⟨rfl, rfl⟩]
  exact normalizeLines_cons (by decide) s

/-- Whether line ends in one form leave a text as it is, whatever begins behind it but a line
feed. -/
def KeepsLines (s : Bytes) : Prop :=
  ∀ c rest, c ≠ 10 → normalizeLines (s ++ c :: rest) = s ++ normalizeLines (c :: rest)

theorem KeepsLines.nil : KeepsLines [] := fun _ _ _ => rfl

theorem KeepsLines.cons {b : UInt8} {s : Bytes} (h : b = 13 → s.head? ≠ some 10)
    (hs : KeepsLines s) : KeepsLines (b :: s) := by
  intro c rest hc
  rw [List.cons_append, List.cons_append]
  by_cases hb : b = 13
  · subst hb
    cases s with
    | nil =>
      rw [List.nil_append, normalizeLines_return hc]
      rfl
    | cons d s =>
      have hd : d ≠ 10 := by simpa using h rfl
      rw [List.cons_append, normalizeLines_return hd, ← List.cons_append, hs c rest hc]
  · rw [normalizeLines_cons hb, hs c rest hc]

theorem inQuotes_cons (b : UInt8) (f : Bytes) :
    inQuotes (b :: f) = (if b = byte '"' then [b, b] else [b]) ++ inQuotes f := rfl

theorem head?_inQuotes (f : Bytes) : (inQuotes f).head? = f.head? := by
  cases f with
  | nil => rfl
  | cons b f =>
    rw [inQuotes_cons]
    split_ifs <;> rfl

theorem keepsLines_inQuotes {f : Bytes} (h : ¬utf8 "\r\n" <:+: f) : KeepsLines (inQuotes f) := by
  induction f with
  | nil => exact .nil
  | cons b f ih =>
    have hrest : KeepsLines (inQuotes f) := ih fun hf => h (hf.trans (List.suffix_cons b f).isInfix)
    rw [inQuotes_cons]
    split_ifs with hb
    · have hne : b ≠ 13 := by
        rintro rfl
        exact absurd hb (by decide)
      exact .cons (fun h => absurd h hne) (.cons (fun h => absurd h hne) hrest)
    · refine .cons ?_ hrest
      rintro rfl hline
      replace hline : (inQuotes f).head? = some 10 := hline
      rw [head?_inQuotes] at hline
      obtain ⟨rest, rfl⟩ := List.head?_eq_some_iff.mp hline
      exact h ⟨[], rest, rfl⟩

theorem normalizeLines_quoteField {f : Bytes} (h : ¬utf8 "\r\n" <:+: f) (rest : Bytes) :
    normalizeLines (quoteField f ++ rest) = quoteField f ++ normalizeLines rest := by
  rw [quoteField]
  simp only [List.cons_append, List.append_assoc]
  rw [normalizeLines_cons (by decide), keepsLines_inQuotes h _ _ (by decide),
    List.nil_append, List.nil_append, normalizeLines_cons (by decide)]

theorem normalizeLines_writeRecord {record : List Bytes} (h : ∀ f ∈ record, ¬utf8 "\r\n" <:+: f)
    (rest : Bytes) :
    normalizeLines (writeRecord record ++ rest) = writeRecord record ++ normalizeLines rest := by
  induction record with
  | nil => rfl
  | cons f record ih =>
    obtain ⟨hf, hrecord⟩ := List.forall_mem_cons.mp h
    cases record with
    | nil =>
      simp only [writeRecord, List.map_cons, List.map_nil, Bytes.join, List.intercalate_singleton]
      exact normalizeLines_quoteField hf rest
    | cons f' record =>
      have hjoin : writeRecord (f :: f' :: record) =
          quoteField f ++ byte ',' :: writeRecord (f' :: record) := Bytes.join_cons_cons _ _ _
      rw [hjoin, List.append_assoc, normalizeLines_quoteField hf, List.cons_append,
        normalizeLines_cons (by decide), ih hrecord]
      simp

theorem normalizeLines_write {table : List (List Bytes × Bytes)}
    (hends : ∀ p ∈ table, p.2 = utf8 "\r\n" ∨ p.2 = utf8 "\n")
    (hfields : ∀ p ∈ table, ∀ f ∈ p.1, ¬utf8 "\r\n" <:+: f) :
    normalizeLines (write table) = (table.map Prod.fst).flatMap fun r => writeRecord r ++ [10] := by
  induction table with
  | nil => rfl
  | cons p table ih =>
    obtain ⟨hend, htable⟩ := List.forall_mem_cons.mp hends
    obtain ⟨hrecord, hrest⟩ := List.forall_mem_cons.mp hfields
    have hwrite : write (p :: table) = writeRecord p.1 ++ (p.2 ++ write table) := by
      simp [write]
    have hline : normalizeLines (p.2 ++ write table) = 10 :: normalizeLines (write table) := by
      rcases hend with hend | hend <;> rw [hend]
      · exact normalizeLines_lineEnd _
      · exact normalizeLines_cons (by decide) _
    rw [hwrite, normalizeLines_writeRecord hrecord, hline, ih htable hrest]
    simp

end Lines

section Reading

open Reader

variable {rules : Rules} {s : Bytes}

theorem readFrom_append {before : Nat} {r r' : Reader} {a : Bytes}
    (h : r.readFrom rules s before a = .ok r') (b : Bytes) :
    r.readFrom rules s before (a ++ b) = r'.readFrom rules s (before + a.length) b := by
  induction a generalizing before r with
  | nil =>
    cases h
    rfl
  | cons x a ih =>
    rw [readFrom] at h
    rw [List.cons_append, readFrom]
    cases hstep : r.step rules s before x with
    | error e => simp [hstep] at h
    | ok r₁ =>
      rw [hstep] at h
      dsimp only at h ⊢
      rw [ih h, List.length_cons, Nat.add_right_comm, Nat.add_assoc]

theorem readFrom_cons {before : Nat} {r r' : Reader} {b : UInt8}
    (h : r.step rules s before b = .ok r') (rest : Bytes) :
    r.readFrom rules s before (b :: rest) = r'.readFrom rules s (before + 1) rest := by
  rw [readFrom, h]

/-- Between quotes the reader takes in what was written there. -/
theorem readFrom_inQuotes (before : Nat) (records : List (List Bytes)) (fields : List Bytes)
    (bytes : Bytes) (opened : Nat) (f : Bytes) :
    readFrom rules s before ⟨.quoted, records, fields, bytes, opened⟩ (inQuotes f) =
      .ok ⟨.quoted, records, fields, f.reverse ++ bytes, opened⟩ := by
  induction f generalizing before bytes with
  | nil => rfl
  | cons b f ih =>
    rw [inQuotes_cons, List.reverse_cons, List.append_assoc, List.singleton_append]
    split_ifs with hb
    · subst hb
      exact ih (before + 2) (byte '"' :: bytes)
    · have hstep : step rules s before ⟨.quoted, records, fields, bytes, opened⟩ b =
          .ok ⟨.quoted, records, fields, b :: bytes, opened⟩ := by
        simp [step, hb, add]
      rw [List.singleton_append, readFrom_cons hstep]
      exact ih (before + 1) (b :: bytes)

/-- Where a field may begin. -/
def Place.beginsField (place : Place) : Prop := place = .line ∨ place = .field

theorem readFrom_quoteField {place : Place} (hplace : place.beginsField) (before : Nat)
    (records : List (List Bytes)) (fields : List Bytes) (opened : Nat) (f : Bytes) :
    ∃ opened', readFrom rules s before ⟨place, records, fields, [], opened⟩ (quoteField f) =
      .ok ⟨.closing, records, fields, f.reverse, opened'⟩ := by
  have hopen : ∃ opened', step rules s before ⟨place, records, fields, [], opened⟩ (byte '"') =
      .ok ⟨.quoted, records, fields, [], opened'⟩ := by
    rcases hplace with rfl | rfl
    · exact ⟨before, rfl⟩
    · exact ⟨opened, rfl⟩
  obtain ⟨opened', hopen⟩ := hopen
  refine ⟨opened', ?_⟩
  rw [quoteField, readFrom_cons hopen, readFrom_append (readFrom_inQuotes _ _ _ _ _ f),
    List.append_nil]
  rfl

/-- A record of quoted fields is read from its first field on, with the fields before it. -/
theorem readFrom_writeRecord (hwidth : rules.width = .any) {place : Place}
    (hplace : place.beginsField) (before : Nat) (records : List (List Bytes))
    (fields : List Bytes) (opened : Nat) (f : Bytes) (rest : List Bytes) :
    ∃ opened', readFrom rules s before ⟨place, records, fields, [], opened⟩
        (writeRecord (f :: rest) ++ [10]) =
      .ok ⟨.line, (fields.reverse ++ f :: rest) :: records, [], [], opened'⟩ := by
  induction rest generalizing place before fields opened f with
  | nil =>
    obtain ⟨opened', hfield⟩ := readFrom_quoteField hplace before records fields opened f
    refine ⟨opened', ?_⟩
    have hwrite : writeRecord [f] = quoteField f := by simp [writeRecord, Bytes.join]
    have hend : step rules s (before + (quoteField f).length)
        ⟨.closing, records, fields, f.reverse, opened'⟩ 10 =
        .ok ⟨.line, (fields.reverse ++ [f]) :: records, [], [], opened'⟩ := by
      simp [step, endRecord, hwidth, Width.admits, byte]
    rw [hwrite, readFrom_append hfield, readFrom_cons hend]
    rfl
  | cons f' rest ih =>
    obtain ⟨opened₁, hfield⟩ := readFrom_quoteField hplace before records fields opened f
    have hwrite : writeRecord (f :: f' :: rest) ++ [10] =
        quoteField f ++ byte ',' :: (writeRecord (f' :: rest) ++ [10]) := by
      have hjoin : writeRecord (f :: f' :: rest) =
          quoteField f ++ byte ',' :: writeRecord (f' :: rest) := Bytes.join_cons_cons _ _ _
      rw [hjoin]
      simp
    have hend : step rules s (before + (quoteField f).length)
        ⟨.closing, records, fields, f.reverse, opened₁⟩ (byte ',') =
        .ok ⟨.field, records, f :: fields, [], opened₁⟩ := by
      simp [step, endField, byte]
    obtain ⟨opened', hrest⟩ := ih (.inr rfl) (before + (quoteField f).length + 1) (f :: fields)
      opened₁ f'
    refine ⟨opened', ?_⟩
    rw [hwrite, readFrom_append hfield, readFrom_cons hend, hrest]
    simp

theorem readFrom_table (hwidth : rules.width = .any) {table : List (List Bytes)}
    (hne : ∀ r ∈ table, r ≠ []) (before : Nat) (records : List (List Bytes)) (opened : Nat) :
    ∃ opened', readFrom rules s before ⟨.line, records, [], [], opened⟩
        (table.flatMap fun r => writeRecord r ++ [10]) =
      .ok ⟨.line, table.reverse ++ records, [], [], opened'⟩ := by
  induction table generalizing before records opened with
  | nil => exact ⟨opened, rfl⟩
  | cons record table ih =>
    obtain ⟨hrecord, htable⟩ := List.forall_mem_cons.mp hne
    obtain ⟨f, rest, rfl⟩ := List.exists_cons_of_ne_nil hrecord
    obtain ⟨opened₁, hfirst⟩ := readFrom_writeRecord (s := s) hwidth (.inl rfl) before records []
      opened f rest
    obtain ⟨opened', hrest⟩ := ih htable (before + (writeRecord (f :: rest) ++ [10]).length)
      ((f :: rest) :: records) opened₁
    refine ⟨opened', ?_⟩
    rw [List.flatMap_cons, readFrom_append hfirst]
    simpa using hrest

/-- Whatever the rules about quotes, a table of quoted fields reads back as it was. -/
theorem parse_write (hwidth : rules.width = .any) {table : List (List Bytes × Bytes)}
    (hne : ∀ p ∈ table, p.1 ≠ [])
    (hends : ∀ p ∈ table, p.2 = utf8 "\r\n" ∨ p.2 = utf8 "\n")
    (hfields : ∀ p ∈ table, ∀ f ∈ p.1, ¬utf8 "\r\n" <:+: f) :
    parse rules (write table) = .ok (table.map Prod.fst) := by
  have hrecords : ∀ r ∈ table.map Prod.fst, r ≠ [] := by simpa using hne
  obtain ⟨opened', hread⟩ := readFrom_table
    (s := (table.map Prod.fst).flatMap fun r => writeRecord r ++ [10]) hwidth hrecords 0 [] 0
  rw [parse, normalizeLines_write hends hfields, Reader.start, hread]
  simp [finish]

end Reading

section Total

open Reader

variable {rules : Rules} {s : Bytes}

/-- Whether no record that was read is empty. -/
def Reader.HasFields (r : Reader) : Prop := ∀ record ∈ r.records, record ≠ []

theorem endRecord_ok (hwidth : rules.width = .any) {r : Reader} (h : r.HasFields) :
    ∃ r', r.endRecord rules s = .ok r' ∧ r'.HasFields := by
  refine ⟨_, by rw [endRecord, hwidth, Width.admits, if_pos rfl], ?_⟩
  intro record hrecord
  rcases List.mem_cons.mp hrecord with rfl | hrecord
  · simp
  · exact h record hrecord

/-- Where quotes may stand anywhere and any number of fields will do, no byte is refused. -/
theorem step_ok (hlazy : rules.lazyQuotes = true) (hwidth : rules.width = .any) {r : Reader}
    (h : r.HasFields) (before : Nat) (b : UInt8) :
    ∃ r', r.step rules s before b = .ok r' ∧ r'.HasFields := by
  have hunquoted : ∀ r : Reader, r.HasFields →
      ∃ r', r.unquoted rules s before b = .ok r' ∧ r'.HasFields := by
    intro r h
    unfold unquoted
    split_ifs with _ _ hquote
    · exact ⟨_, rfl, h⟩
    · exact endRecord_ok hwidth h
    · simp [hlazy] at hquote
    · exact ⟨_, rfl, h⟩
  have hfirst : ∀ r : Reader, r.HasFields →
      ∃ r', r.first rules s before b = .ok r' ∧ r'.HasFields := by
    intro r h
    unfold first
    split_ifs
    · exact ⟨_, rfl, h⟩
    · exact hunquoted r h
  obtain ⟨place, records, fields, bytes, opened⟩ := r
  cases place with
  | line =>
    dsimp only [step]
    split_ifs
    · exact ⟨_, rfl, h⟩
    · exact hfirst _ h
  | field => exact hfirst _ h
  | plain => exact hunquoted _ h
  | quoted =>
    dsimp only [step]
    refine ⟨_, rfl, ?_⟩
    split_ifs <;> exact h
  | closing =>
    dsimp only [step]
    split_ifs
    · exact ⟨_, rfl, h⟩
    · exact ⟨_, rfl, h⟩
    · exact endRecord_ok hwidth h
    · exact ⟨_, rfl, h⟩

theorem readFrom_ok (hlazy : rules.lazyQuotes = true) (hwidth : rules.width = .any) {r : Reader}
    (h : r.HasFields) (before : Nat) (rest : Bytes) :
    ∃ r', r.readFrom rules s before rest = .ok r' ∧ r'.HasFields := by
  induction rest generalizing r before with
  | nil => exact ⟨r, rfl, h⟩
  | cons b rest ih =>
    obtain ⟨r₁, hstep, h₁⟩ := step_ok (s := s) hlazy hwidth h before b
    rw [readFrom_cons hstep]
    exact ih h₁ (before + 1)

theorem finish_ok (hlazy : rules.lazyQuotes = true) (hwidth : rules.width = .any) {r : Reader}
    (h : r.HasFields) : ∃ records, r.finish rules s = .ok records ∧ ∀ r ∈ records, r ≠ [] := by
  unfold finish
  split_ifs with _ hquote
  · exact ⟨_, rfl, fun record hrecord => h record (List.mem_reverse.mp hrecord)⟩
  · simp [hlazy] at hquote
  · obtain ⟨r', hend, h'⟩ := endRecord_ok (s := s) hwidth h
    rw [hend]
    exact ⟨_, rfl, fun record hrecord => h' record (List.mem_reverse.mp hrecord)⟩

/-- Such rules refuse no text, and no record is empty. -/
theorem parse_ok (hlazy : rules.lazyQuotes = true) (hwidth : rules.width = .any) (s : Bytes) :
    ∃ records, parse rules s = .ok records ∧ ∀ r ∈ records, r ≠ [] := by
  have hstart : Reader.start.HasFields := by simp [Reader.HasFields, Reader.start]
  obtain ⟨r, hread, h⟩ := readFrom_ok (s := normalizeLines s) hlazy hwidth hstart 0
    (normalizeLines s)
  rw [parse, hread]
  exact finish_ok hlazy hwidth h

end Total

end DocPull.Csv
