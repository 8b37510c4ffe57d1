import Firepony.Covariates.Chain
import Firepony.TableFormatter
import Mathlib.Data.List.FinRange

/-! # RecalTable1: the quality-score packer and its table dump

`covariate_packer_quality_score` chains ReadGroup, QualityScore and EventTracker and dumps a
postprocessed table as GATK's RecalTable1. The dump loop walks the table with a `uint32`
counter, skips every entry without observations, and sends one row for each other entry:
read-group name, quality score as decimal text, event character, empirical quality,
observations and errors. The quality score is narrowed to `uint8` before it is printed, so the
text is the decoded value's only while that value is below 256. The chain's decoder, the
read-group names and the event characters come from other headers and stay abstract.
-/

namespace Firepony.PackerQualityScore

open CovariateEmpiricalTable TableFormatter

/-- `CovariateID`: the position of each covariate in the chain, used when decoding a key. -/
inductive CovariateID where
  | readGroup
  | qualityScore
  | eventTracker
deriving DecidableEq, Repr

/-- The enum's values: the chain's outermost covariate has the highest index. -/
def CovariateID.toUInt32 : CovariateID → UInt32
  | .readGroup => 3
  | .qualityScore => 2
  | .eventTracker => 1

theorem CovariateID.toUInt32_toNat_mem (id : CovariateID) :
    0 < id.toUInt32.toNat ∧ id.toUInt32.toNat ≤ 3 := by
  cases id <;> decide

/-- The code the dump calls in other headers: the chain's decoder `chain::decode`, the
read-group names `read_groups_db.lookup` of the context's BAM header, and
`cigar_event::ascii`. -/
structure Collaborators where
  chainDecode : CovariateKey → UInt32 → UInt32
  readGroupsLookup : UInt32 → String
  cigarEventAscii : UInt32 → Char

section Dump

variable (ext : Collaborators)

/-- `decode`: extract one covariate of a key through the chain. -/
def decode (key : CovariateKey) (id : CovariateID) : UInt32 :=
  ext.chainDecode key id.toUInt32

/-- The loop body of `dump_table_loop` at entry `i`. -/
def dumpTableEntry (table : CovariateEmpiricalTable) (i : Fin table.size.toNat)
    (fmt : TableFormatter) : TableFormatter :=
  -- skip null entries in the table
  if (table.value i).observations = 0 then fmt
  else
    let rgId := decode ext (table.key i) .readGroup
    let rgName := ext.readGroupsLookup rgId
    let ev := ext.cigarEventAscii (decode ext (table.key i) .eventTracker)
    let val := table.value i
    let qual : UInt8 := (decode ext (table.key i) .qualityScore).toUInt8
    -- snprintf(qual_str, sizeof(qual_str), "%d", qual)
    let qualStr := toString qual.toNat
    fmt.startRow
      |>.data (.string rgName)
      |>.data (.string qualStr)
      |>.data (.char ev)
      |>.data (.double val.empiricalQuality)
      |>.data (.uint32 val.observations)
      |>.data (.double val.mismatches)
      |>.endRow

/-- `dump_table_loop`: `for (uint32 i = 0; i < table.size(); i++)` over the loop body. -/
def dumpTableLoop (table : CovariateEmpiricalTable) (fmt : TableFormatter) : TableFormatter :=
  go table.size.toNat 0 fmt
where
  /-- The loop from counter `i` on, with `fuel` bounding the passes; `size()` passes suffice. -/
  go : Nat → UInt32 → TableFormatter → TableFormatter
    | 0, _, fmt => fmt
    | fuel + 1, i, fmt =>
      if h : i < table.size then go fuel (i + 1) (dumpTableEntry ext table ⟨i.toNat, h⟩ fmt)
      else fmt

/-- `dump_table`: declare RecalTable1's columns, then run the loop twice, first to compute the
column widths and then to print, each pass closed by `end_table`. The host copy the loop reads
(`copyfrom`) holds the device table's entries. -/
def dumpTable (table : CovariateEmpiricalTable) : TableFormatter :=
  let fmt := TableFormatter.new "RecalTable1"
    |>.addColumn "ReadGroup" .fmtString []
    -- for some very odd reason, GATK outputs this as a string
    |>.addColumn "QualityScore" .fmtString []
    |>.addColumn "EventType" .fmtChar []
    |>.addColumn "EmpiricalQuality" .fmtFloat4 []
    |>.addColumn "Observations" .fmtUint64 []
    |>.addColumn "Errors" .fmtFloat2 [.alignmentRight, .alignmentLeft]
  -- preprocess table data to compute column widths
  let fmt := (dumpTableLoop ext table fmt).endTable
  -- output table
  (dumpTableLoop ext table fmt).endTable

/-- One row: `start_row`, the six cells in column order, `end_row`. -/
def rowCalls (rgName qualStr : String) (ev : Char) (val : CovariateEmpiricalValue) :
    List Call :=
  [.startRow, .data (.string rgName), .data (.string qualStr), .data (.char ev),
    .data (.double val.empiricalQuality), .data (.uint32 val.observations),
    .data (.double val.mismatches), .endRow]

/-- The calls the loop body makes for entry `i`: none for a null entry, otherwise its row,
with the quality score narrowed to `uint8`. -/
def entryCalls (table : CovariateEmpiricalTable) (i : Fin table.size.toNat) : List Call :=
  if (table.value i).observations = 0 then []
  else
    rowCalls (ext.readGroupsLookup (decode ext (table.key i) .readGroup))
      (toString (decode ext (table.key i) .qualityScore).toUInt8.toNat)
      (ext.cigarEventAscii (decode ext (table.key i) .eventTracker)) (table.value i)

/-- The RecalTable1 row of entry `i` in the spec's words: the read-group name of its
ReadGroup, the decimal text of its QualityScore, the character of its EventTracker, then the
entry's empirical quality, observations and mismatches. -/
def recalTable1Row (table : CovariateEmpiricalTable) (i : Fin table.size.toNat) : List Call :=
  rowCalls (ext.readGroupsLookup (decode ext (table.key i) .readGroup))
    (toString (decode ext (table.key i) .qualityScore).toNat)
    (ext.cigarEventAscii (decode ext (table.key i) .eventTracker)) (table.value i)

/-- The calls of one pass of the loop over the whole table. -/
def tablePass (table : CovariateEmpiricalTable) : List Call :=
  (List.finRange table.size.toNat).flatMap (entryCalls ext table)

/-- The entries the dump prints, in table order. -/
def nonNullEntries (table : CovariateEmpiricalTable) : List (Fin table.size.toNat) :=
  (List.finRange table.size.toNat).filter fun i => (table.value i).observations ≠ 0

theorem mem_nonNullEntries (table : CovariateEmpiricalTable) (i : Fin table.size.toNat) :
    i ∈ nonNullEntries table ↔ (table.value i).observations ≠ 0 := by
  simp [nonNullEntries, List.mem_finRange]

theorem dumpTableEntry_eq (table : CovariateEmpiricalTable) (i : Fin table.size.toNat)
    (fmt : TableFormatter) :
    dumpTableEntry ext table i fmt = fmt.send (entryCalls ext table i) := by
  unfold dumpTableEntry entryCalls
  split <;> simp [rowCalls]

private theorem counter_succ_toNat {i size : UInt32} (lt : i < size) :
    (i + 1).toNat = i.toNat + 1 := by
  have bound : i.toNat < size.toNat := lt
  have : size.toNat < 2 ^ 32 := size.toBitVec.isLt
  show (i.toNat + 1) % 2 ^ 32 = _
  omega

private theorem drop_finRange {n k : Nat} (lt : k < n) :
    (List.finRange n).drop k = ⟨k, lt⟩ :: (List.finRange n).drop (k + 1) := by
  rw [@List.drop_eq_getElem_cons _ k (List.finRange n) (by simpa using lt)]
  simp

/-- From counter `i` with the rest of the table ahead, the loop sends the entry calls of
every remaining index, in order. -/
theorem dumpTableLoop_go_eq (table : CovariateEmpiricalTable) :
    ∀ (fuel : Nat) (i : UInt32) (fmt : TableFormatter), i.toNat + fuel = table.size.toNat →
      dumpTableLoop.go ext table fuel i fmt =
        fmt.send (((List.finRange table.size.toNat).drop i.toNat).flatMap (entryCalls ext table))
  | 0, i, fmt, rest => by
    have done : (List.finRange table.size.toNat).drop i.toNat = [] :=
      List.drop_eq_nil_of_le (by simp; omega)
    simp [dumpTableLoop.go, done]
  | fuel + 1, i, fmt, rest => by
    have bound : i.toNat < table.size.toNat := by omega
    have lt : i < table.size := bound
    have next := dumpTableLoop_go_eq table fuel (i + 1)
      (dumpTableEntry ext table ⟨i.toNat, lt⟩ fmt) (by rw [counter_succ_toNat lt]; omega)
    rw [dumpTableLoop.go, dif_pos lt, next, dumpTableEntry_eq, send_send, counter_succ_toNat lt,
      drop_finRange bound, List.flatMap_cons]

theorem dumpTableLoop_eq_tablePass (table : CovariateEmpiricalTable) (fmt : TableFormatter) :
    dumpTableLoop ext table fmt = fmt.send (tablePass ext table) := by
  rw [dumpTableLoop, dumpTableLoop_go_eq ext table _ 0 fmt (by simp)]
  simp only [UInt32.toNat_zero, List.drop_zero, tablePass]

private theorem narrow_toNat {q : UInt32} (small : q < 256) : q.toUInt8.toNat = q.toNat := by
  show q.toNat % 256 = q.toNat
  exact Nat.mod_eq_of_lt small

/-- Where the quality score fits in `uint8`, a non-null entry sends the spec's row. -/
theorem entryCalls_eq_row (table : CovariateEmpiricalTable) (i : Fin table.size.toNat)
    (nonNull : (table.value i).observations ≠ 0)
    (small : decode ext (table.key i) .qualityScore < 256) :
    entryCalls ext table i = recalTable1Row ext table i := by
  rw [entryCalls, if_neg nonNull, narrow_toNat small, recalTable1Row]

theorem flatMap_entryCalls (table : CovariateEmpiricalTable)
    (narrow : ∀ i, (table.value i).observations ≠ 0 →
      decode ext (table.key i) .qualityScore < 256)
    (entries : List (Fin table.size.toNat)) :
    entries.flatMap (entryCalls ext table) =
      (entries.filter fun i => (table.value i).observations ≠ 0).flatMap
        (recalTable1Row ext table) := by
  induction entries with
  | nil => rfl
  | cons i rest ih =>
    by_cases null : (table.value i).observations = 0
    · simp [entryCalls, null, ih]
    · simp [entryCalls_eq_row ext table i null (narrow i null), null, ih]

theorem dumpTableLoop_eq (table : CovariateEmpiricalTable) (fmt : TableFormatter)
    (narrow : ∀ i, (table.value i).observations ≠ 0 →
      decode ext (table.key i) .qualityScore < 256) :
    dumpTableLoop ext table fmt =
      fmt.send ((nonNullEntries table).flatMap (recalTable1Row ext table)) := by
  rw [dumpTableLoop_eq_tablePass, tablePass, flatMap_entryCalls ext table narrow, nonNullEntries]

/-- The dump sends one row for each entry with observations and none for a null entry, in
strictly ascending table order, each row built from its own entry. -/
theorem dumpTableLoop_rows (table : CovariateEmpiricalTable) (fmt : TableFormatter)
    (narrow : ∀ i, (table.value i).observations ≠ 0 →
      decode ext (table.key i) .qualityScore < 256) :
    ∃ rows : List (Fin table.size.toNat), rows.Pairwise (· < ·) ∧
      (∀ i, i ∈ rows ↔ (table.value i).observations ≠ 0) ∧
      dumpTableLoop ext table fmt = fmt.send (rows.flatMap (recalTable1Row ext table)) :=
  ⟨nonNullEntries table, (List.pairwise_lt_finRange _).filter _,
    fun i => by simp [nonNullEntries, List.mem_finRange], dumpTableLoop_eq ext table fmt narrow⟩

end Dump

/-- Modelled from the spec: the widths of `chain`, EventTracker (2 bits) lowest, then
QualityScore (6 bits), then ReadGroup, whose width the build chooses. -/
def chain (readGroupBits : Fin 33) : CovariateChain :=
  ⟨[2, 6, readGroupBits], by simp only [List.sum_cons, List.sum_nil]; omega, by simp; omega⟩

/-- Read group 0 is `rg1`, event 0 is `M`, on a chain with 8-bit read groups. -/
def sampleCollaborators : Collaborators where
  chainDecode := (chain 8).decode
  readGroupsLookup id := if id = 0 then "rg1" else "rg2"
  cigarEventAscii ev := if ev = 0 then 'M' else 'I'

/-- Three entries of `rg1`, the middle one null. -/
def sampleTable : CovariateEmpiricalTable where
  size := 3
  keys := #[(chain 8).encode [0, 30, 0], (chain 8).encode [1, 30, 0],
    (chain 8).encode [0, 31, 0]]
  values := #[⟨8, 0.02, 39.9958⟩, ⟨0, 0, 0⟩, ⟨7, 1.02, 9.4912⟩]
  keys_size := rfl
  values_size := rfl

theorem dumpTableLoop_rows_sample :
    (∀ i, (sampleTable.value i).observations ≠ 0 →
      decode sampleCollaborators (sampleTable.key i) .qualityScore < 256) ∧
    ∃ rows : List (Fin sampleTable.size.toNat), rows.Pairwise (· < ·) ∧
      (∀ i, i ∈ rows ↔ (sampleTable.value i).observations ≠ 0) ∧
      dumpTableLoop sampleCollaborators sampleTable (.new "RecalTable1") =
        (TableFormatter.new "RecalTable1").send
          (rows.flatMap (recalTable1Row sampleCollaborators sampleTable)) :=
  have narrow : ∀ i, (sampleTable.value i).observations ≠ 0 →
      decode sampleCollaborators (sampleTable.key i) .qualityScore < 256 := by decide
  ⟨narrow, dumpTableLoop_rows sampleCollaborators sampleTable _ narrow⟩

example : (nonNullEntries sampleTable).map Fin.val = [0, 2] := by decide

private theorem qualityScore_narrow (readGroupBits : Fin 33) (key : CovariateKey) :
    (chain readGroupBits).decode key CovariateID.qualityScore.toUInt32 < 256 := by
  have bound := (chain readGroupBits).decode_lt key 2 (by decide)
    (by simpa [chain] using CovariateID.qualityScore.toUInt32_toNat_mem.2)
  exact UInt32.lt_trans (by simpa [chain] using bound) (by decide : (64 : UInt32) < 256)

/-- On the packer's own chain a quality score decodes below 64, so it always fits `uint8`: the
dump of any table sends the spec's row of each non-null entry, in table order. -/
theorem dumpTableLoop_chain (readGroupBits : Fin 33) (readGroupsLookup : UInt32 → String)
    (cigarEventAscii : UInt32 → Char) (table : CovariateEmpiricalTable) (fmt : TableFormatter) :
    dumpTableLoop ⟨(chain readGroupBits).decode, readGroupsLookup, cigarEventAscii⟩ table fmt =
      fmt.send ((nonNullEntries table).flatMap
        (recalTable1Row ⟨(chain readGroupBits).decode, readGroupsLookup, cigarEventAscii⟩
          table)) :=
  dumpTableLoop_eq _ table fmt fun _ _ => qualityScore_narrow readGroupBits _

private theorem chain_fields (readGroupBits : Fin 33) (key : CovariateKey)
    (packed : key.toNat < 2 ^ (8 + (readGroupBits : Nat))) :
    ((chain readGroupBits).decode key CovariateID.readGroup.toUInt32).toNat = key.toNat / 256 ∧
      ((chain readGroupBits).decode key CovariateID.qualityScore.toUInt32).toNat =
        key.toNat / 4 % 64 ∧
      ((chain readGroupBits).decode key CovariateID.eventTracker.toUInt32).toNat =
        key.toNat % 4 := by
  have top : key.toNat / 256 < 2 ^ (readGroupBits : Nat) := by
    rw [Nat.div_lt_iff_lt_mul (by norm_num)]
    calc key.toNat < 2 ^ (8 + (readGroupBits : Nat)) := packed
      _ = 2 ^ (readGroupBits : Nat) * 256 := by rw [Nat.pow_add']
  simp only [CovariateChain.decode_toNat]
  refine ⟨?_, rfl, rfl⟩
  show key.toNat / 2 ^ 2 / 2 ^ 6 % 2 ^ (readGroupBits : Nat) = _
  rw [Nat.div_div_eq_div_mul]
  exact Nat.mod_eq_of_lt top

private theorem fields_lex {first second : Nat} (order : first < second) :
    Prod.Lex (· < ·) (Prod.Lex (· < ·) (· < ·)) (first / 256, first / 4 % 64, first % 4)
      (second / 256, second / 4 % 64, second % 4) := by
  simp only [Prod.lex_def]
  omega

/-- On a table in canonical key order whose keys lie within the packer's chain, the dump
prints the rows of exactly the non-null entries, by ascending read-group id (the id interned
in the key, not the name printed for it), then quality score, then event. -/
theorem dumpTableLoop_chain_sorted (readGroupBits : Fin 33) (readGroupsLookup : UInt32 → String)
    (cigarEventAscii : UInt32 → Char) (table : CovariateEmpiricalTable) (fmt : TableFormatter)
    (ascending : ∀ i j : Fin table.size.toNat, i < j → table.key i < table.key j)
    (packed : ∀ i, (table.key i).toNat < 2 ^ (8 + (readGroupBits : Nat))) :
    let ext : Collaborators := ⟨(chain readGroupBits).decode, readGroupsLookup, cigarEventAscii⟩
    ∃ rows : List (Fin table.size.toNat),
      (∀ i, i ∈ rows ↔ (table.value i).observations ≠ 0) ∧
      dumpTableLoop ext table fmt = fmt.send (rows.flatMap (recalTable1Row ext table)) ∧
      (rows.map fun i => ((decode ext (table.key i) .readGroup).toNat,
          (decode ext (table.key i) .qualityScore).toNat,
          (decode ext (table.key i) .eventTracker).toNat)).Pairwise
        (Prod.Lex (· < ·) (Prod.Lex (· < ·) (· < ·))) := by
  intro ext
  refine ⟨nonNullEntries table, mem_nonNullEntries table,
    dumpTableLoop_eq ext table fmt fun _ _ => qualityScore_narrow readGroupBits _,
    ((List.pairwise_lt_finRange _).filter _).map _ fun i j before => ?_⟩
  obtain ⟨rg₁, q₁, ev₁⟩ := chain_fields readGroupBits _ (packed i)
  obtain ⟨rg₂, q₂, ev₂⟩ := chain_fields readGroupBits _ (packed j)
  simp only [ext, decode, rg₁, q₁, ev₁, rg₂, q₂, ev₂]
  exact fields_lex (ascending i j before)

theorem dumpTableLoop_chain_sorted_sample :
    (∀ i j : Fin sampleTable.size.toNat, i < j → sampleTable.key i < sampleTable.key j) ∧
      (∀ i, (sampleTable.key i).toNat < 2 ^ (8 + 8)) ∧
      ∃ rows : List (Fin sampleTable.size.toNat),
        (∀ i, i ∈ rows ↔ (sampleTable.value i).observations ≠ 0) ∧
        dumpTableLoop sampleCollaborators sampleTable (.new "RecalTable1") =
          (TableFormatter.new "RecalTable1").send
            (rows.flatMap (recalTable1Row sampleCollaborators sampleTable)) ∧
        (rows.map fun i => ((decode sampleCollaborators (sampleTable.key i) .readGroup).toNat,
            (decode sampleCollaborators (sampleTable.key i) .qualityScore).toNat,
            (decode sampleCollaborators (sampleTable.key i) .eventTracker).toNat)).Pairwise
          (Prod.Lex (· < ·) (Prod.Lex (· < ·) (· < ·))) := by
  have ascending : ∀ i j : Fin sampleTable.size.toNat, i < j →
      sampleTable.key i < sampleTable.key j := by decide
  have packed : ∀ i, (sampleTable.key i).toNat < 2 ^ (8 + 8) := by decide
  exact ⟨ascending, packed, dumpTableLoop_chain_sorted 8 _ _ sampleTable _ ascending packed⟩

private theorem decode_chain_encode (readGroupBits : Fin 33) (rg q ev : UInt32)
    (valid : ev.toNat < 4 ∧ q.toNat < 64 ∧ rg.toNat < 2 ^ (readGroupBits : Nat)) :
    (chain readGroupBits).decode ((chain readGroupBits).encode [ev, q, rg])
        CovariateID.readGroup.toUInt32 = rg ∧
      (chain readGroupBits).decode ((chain readGroupBits).encode [ev, q, rg])
        CovariateID.qualityScore.toUInt32 = q ∧
      (chain readGroupBits).decode ((chain readGroupBits).encode [ev, q, rg])
        CovariateID.eventTracker.toUInt32 = ev := by
  have fields : List.Forall₂ (fun value width => value.toNat < 2 ^ width) [ev, q, rg]
      (chain readGroupBits).bits := by
    simpa [chain] using valid
  refine ⟨?_, ?_, ?_⟩ <;>
    exact ((chain readGroupBits).decode_encode _ fields _ (CovariateID.toUInt32_toNat_mem _).1
      (by simpa using (CovariateID.toUInt32_toNat_mem _).2)).trans rfl

private theorem recalTable1Row_chain_encode (readGroupBits : Fin 33)
    (readGroupsLookup : UInt32 → String) (cigarEventAscii : UInt32 → Char)
    (table : CovariateEmpiricalTable) (i : Fin table.size.toNat) (rg q ev : UInt32)
    (packed : table.key i = (chain readGroupBits).encode [ev, q, rg])
    (valid : ev.toNat < 4 ∧ q.toNat < 64 ∧ rg.toNat < 2 ^ (readGroupBits : Nat)) :
    recalTable1Row ⟨(chain readGroupBits).decode, readGroupsLookup, cigarEventAscii⟩ table i =
      rowCalls (readGroupsLookup rg) (toString q.toNat) (cigarEventAscii ev) (table.value i) := by
  obtain ⟨readGroup, qualityScore, eventTracker⟩ :=
    decode_chain_encode readGroupBits rg q ev valid
  simp only [recalTable1Row, decode, packed, readGroup, qualityScore, eventTracker]

/-- Where the key of every entry with observations was packed from a read group, a quality
score and an event that fit their fields, the dump prints, for each such entry in table order,
the name of the read group packed into it, the decimal text of its quality score and the
character of its event, then its empirical quality, observations and mismatches: what the dump
prints is what was packed. -/
theorem dumpTableLoop_encode (readGroupBits : Fin 33) (readGroupsLookup : UInt32 → String)
    (cigarEventAscii : UInt32 → Char) (table : CovariateEmpiricalTable) (fmt : TableFormatter)
    (rg q ev : Fin table.size.toNat → UInt32)
    (packed : ∀ i, (table.value i).observations ≠ 0 →
      table.key i = (chain readGroupBits).encode [ev i, q i, rg i] ∧
        (ev i).toNat < 4 ∧ (q i).toNat < 64 ∧ (rg i).toNat < 2 ^ (readGroupBits : Nat)) :
    dumpTableLoop ⟨(chain readGroupBits).decode, readGroupsLookup, cigarEventAscii⟩ table fmt =
      fmt.send ((nonNullEntries table).flatMap fun i =>
        rowCalls (readGroupsLookup (rg i)) (toString (q i).toNat) (cigarEventAscii (ev i))
          (table.value i)) := by
  rw [dumpTableLoop_eq ⟨(chain readGroupBits).decode, readGroupsLookup, cigarEventAscii⟩ table fmt
    fun _ _ => qualityScore_narrow readGroupBits _]
  refine congrArg fmt.send (List.flatMap_congr fun i member => ?_)
  obtain ⟨key, valid⟩ := packed i ((mem_nonNullEntries table i).1 member)
  exact recalTable1Row_chain_encode readGroupBits _ _ table i _ _ _ key valid

theorem dumpTableLoop_encode_sample :
    let rg : Fin sampleTable.size.toNat → UInt32 := fun _ => 0
    let q : Fin sampleTable.size.toNat → UInt32 := fun i => if i.val = 2 then 31 else 30
    let ev : Fin sampleTable.size.toNat → UInt32 := fun i => if i.val = 1 then 1 else 0
    (∀ i, (sampleTable.value i).observations ≠ 0 →
      sampleTable.key i = (chain 8).encode [ev i, q i, rg i] ∧
        (ev i).toNat < 4 ∧ (q i).toNat < 64 ∧ (rg i).toNat < 2 ^ 8) ∧
    dumpTableLoop sampleCollaborators sampleTable (.new "RecalTable1") =
      (TableFormatter.new "RecalTable1").send ((nonNullEntries sampleTable).flatMap fun i =>
        rowCalls (sampleCollaborators.readGroupsLookup (rg i)) (toString (q i).toNat)
          (sampleCollaborators.cigarEventAscii (ev i)) (sampleTable.value i)) := by
  intro rg q ev
  have packed : ∀ i, (sampleTable.value i).observations ≠ 0 →
      sampleTable.key i = (chain 8).encode [ev i, q i, rg i] ∧
        (ev i).toNat < 4 ∧ (q i).toNat < 64 ∧ (rg i).toNat < 2 ^ 8 := by decide
  exact ⟨packed, dumpTableLoop_encode 8 _ _ sampleTable _ rg q ev packed⟩

end Firepony.PackerQualityScore
