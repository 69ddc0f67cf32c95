import Mathlib.Data.List.TakeWhile
import JanusGate.Common.Blocklist
import JanusGate.Common.PolicyOrder

/-!
# The canonical form of a blocklist

The list that an import returns depends only on the set of its records: the
entries of a record do not depend on what was staged before it, and of the
entries of one domain the least one is retained.  The JSON format reads the
members of an array; loading its text is a parameter.
-/

namespace JanusGate.Blocklist

open Policy Std

/-! ## The JSON format -/

inductive ImportFormat where
  | text (format : BlocklistFormat)
  | json
  deriving DecidableEq

/-- A line of a text, or the fields of a member of the `entries` array; `some none` is no string. -/
inductive InputRecord where
  | line (format : BlocklistFormat) (line : Bytes)
  | item (domain category : Option (Option Bytes))
  deriving DecidableEq

/-- What `json_loadb` and the checks of the root give. -/
inductive JsonText where
  | malformed (line : Nat)
  | unsupported
  | items (items : List InputRecord)
  deriving DecidableEq

variable (lib : Libraries) (limits : BlocklistLimits) (loadJson : Bytes → JsonText)

def readInput (stage : BlocklistStage) : InputRecord → BlocklistStage × Int
  | .line format line => readRecord lib limits format stage line
  | .item (some (some domain)) category =>
    if category = some none then (stage, eInval)
    else
      let label := category.join.getD []
      if domain.contains 0 || label.contains 0 then (stage, eIlSeq)
      else stageEntry lib limits stage domain label
  | .item _ _ => (stage, eInval)

/-- The loop of `parse_text` and of `parse_json`. -/
def readAll (mode : BlocklistMode) : BlocklistStage → BlocklistReport → List InputRecord →
      BlocklistStage × BlocklistReport × Int
  | stage, report, [] => (stage, report, 0)
  | stage, report, record :: records =>
    let seen := { report with recordsSeen := report.recordsSeen + 1 }
    let (parsed, result) := readInput lib limits stage record
    if result < 0 then
      let restored := parsed.restore stage
      let rejected := reportRejection seen seen.recordsSeen result
      if mode = .strict ∨ recordErrorRecoverable result = false then (restored, rejected, result)
      else readAll mode restored rejected records
    else readAll mode parsed seen records

def parseJson (mode : BlocklistMode) : JsonText → BlocklistStage × BlocklistReport × Int
  | .malformed line => ({}, reportRejection {} (max line 1) eInval, eInval)
  | .unsupported => ({}, reportRejection {} 1 eInval, eInval)
  | .items items =>
    let (stage, report, result) := readAll lib limits mode {} {} items
    (stage, { report with entriesParsed := stage.entries.length }, result)

def importInput (format : ImportFormat) (mode : BlocklistMode) (attribution data : Bytes) :
    Except Int ImportedBlocklist × BlocklistReport :=
  match format with
  | .text format => blocklistImport lib limits format mode attribution data
  | .json =>
    match importChecks limits attribution data with
    | .error code => (.error code, {})
    | .ok () =>
      let (stage, report, result) := parseJson lib limits mode (loadJson data)
      if result = 0 then finalizeBlocklist lib stage attribution report
      else (.error result, report)

/-- The records of an input, without the newlines that end them. -/
def recordsOf (format : ImportFormat) (data : Bytes) : List InputRecord :=
  match format with
  | .text format => (splitRecords data).map fun record =>
      .line format (record.takeWhile fun value => value != newline)
  | .json =>
    match loadJson data with
    | .items items => items
    | _ => []

/-! ## The entries of a record -/

def passes (result : Int) : Bool := decide (0 ≤ result) || recordErrorRecoverable result

/-- Two readings of one record that both pass add the same entries. -/
def AddsAlike (first second : BlocklistStage) (outcome other : BlocklistStage × Int) : Prop :=
  passes outcome.2 = true → passes other.2 = true → outcome.2 = other.2 ∧
    ∃ added, outcome.1.entries = first.entries ++ added ∧ other.1.entries = second.entries ++ added

variable {lib limits}

theorem AddsAlike.nothing (result : Int) :
    AddsAlike first second (first, result) (second, result) :=
  fun _ _ => ⟨rfl, [], by simp, by simp⟩

theorem stageEntry_alike (domain category : Bytes) :
    AddsAlike first second (stageEntry lib limits first domain category)
      (stageEntry lib limits second domain category) := by
  unfold stageEntry
  by_cases full : first.entries.length ≥ limits.maxEntries
  · rw [if_pos full]
    exact fun passing => absurd passing Bool.false_ne_true
  by_cases otherFull : second.entries.length ≥ limits.maxEntries
  · rw [if_pos otherFull]
    exact fun _ passing => absurd passing Bool.false_ne_true
  rw [if_neg full, if_neg otherFull]
  split_ifs
  · exact .nothing _
  · exact .nothing _
  cases domainNormalize lib.idn2LookupU8 (trimSpan domain) (domainNameMax + 1) with
  | error => exact .nothing _
  | ok normalized =>
    dsimp only
    split_ifs
    · exact .nothing _
    · exact fun passing => absurd passing Bool.false_ne_true
    · exact fun _ passing => absurd passing Bool.false_ne_true
    · exact fun _ _ => ⟨rfl, _, rfl, rfl⟩

theorem stageHostnames_alike (hostnames : List Bytes) :
    AddsAlike first second (stageHostnames lib limits first hostnames)
      (stageHostnames lib limits second hostnames) := by
  induction hostnames generalizing first second with
  | nil => exact .nothing _
  | cons hostname hostnames ih =>
    intro passing otherPassing
    rw [stageHostnames] at passing otherPassing ⊢
    rw [stageHostnames]
    dsimp only at passing otherPassing ⊢
    have head : ∀ stage, passes (if (stageEntry lib limits stage hostname []).2 = 0 then
          stageHostnames lib limits (stageEntry lib limits stage hostname []).1 hostnames
        else stageEntry lib limits stage hostname []).2 = true →
        passes (stageEntry lib limits stage hostname []).2 = true := by
      intro stage passing
      split_ifs at passing with staged
      · rw [staged]
        rfl
      · exact passing
    obtain ⟨same, added, entries, otherEntries⟩ :=
      stageEntry_alike hostname [] (head first passing) (head second otherPassing)
    by_cases staged : (stageEntry lib limits first hostname []).2 = 0
    · rw [if_pos staged] at passing ⊢
      rw [if_pos (same ▸ staged)] at otherPassing ⊢
      obtain ⟨sameRest, rest, restEntries, otherRest⟩ := ih passing otherPassing
      exact ⟨sameRest, added ++ rest, by simp [restEntries, entries],
        by simp [otherRest, otherEntries]⟩
    · rw [if_neg staged, if_neg (same ▸ staged)]
      exact ⟨same, added, entries, otherEntries⟩

theorem parseTextRecord_alike (format : BlocklistFormat) (line : Bytes) :
    AddsAlike first second (parseTextRecord lib limits format first line)
      (parseTextRecord lib limits format second line) := by
  cases format with
  | hosts =>
    simp only [parseTextRecord, parseHostsRecord]
    split
    · exact .nothing _
    split
    · exact .nothing _
    split
    · exact .nothing _
    rename_i hostnames _ _
    intro passing otherPassing
    have staged : ∀ stage : BlocklistStage, ∀ outcome : BlocklistStage × Int,
        passes (if outcome.2 = 0 ∧ outcome.1.entries.length = stage.entries.length then
          (outcome.1, eInval) else outcome).2 = true → passes outcome.2 = true := by
      intro stage outcome passing
      split_ifs at passing with nothing
      · rw [nothing.1]
        rfl
      · exact passing
    obtain ⟨same, added, entries, otherEntries⟩ := stageHostnames_alike hostnames
      (staged first _ passing) (staged second _ otherPassing)
    rw [← same, entries, otherEntries]
    simp only [List.length_append, Nat.add_eq_left]
    split_ifs <;> exact ⟨rfl, added, entries, otherEntries⟩
  | _ =>
    simp only [parseTextRecord, parseDomainRecord, parseCategoryRecord, parseRpzRecord]
    repeat' split
    all_goals first
      | exact stageEntry_alike _ _
      | exact .nothing _

theorem readInput_alike (record : InputRecord) :
    AddsAlike first second (readInput lib limits first record)
      (readInput lib limits second record) := by
  unfold readInput
  split
  · unfold readRecord
    dsimp only
    split
    · exact .nothing _
    · exact parseTextRecord_alike _ _
  · dsimp only
    split_ifs
    · exact .nothing _
    · exact .nothing _
    · exact stageEntry_alike _ _
  · exact .nothing _

def Stages (lib : Libraries) (limits : BlocklistLimits) (record : InputRecord)
    (entry : BlocklistEntry) : Prop :=
  ∃ stage added, 0 ≤ (readInput lib limits stage record).2 ∧
    (readInput lib limits stage record).1.entries = stage.entries ++ added ∧ entry ∈ added

variable {stage : BlocklistStage} {report : BlocklistReport} {mode : BlocklistMode}

theorem mem_readAll (ended : readAll lib limits mode stage report records = (final, reported, 0))
    (entry : BlocklistEntry) : entry ∈ final.entries ↔
      entry ∈ stage.entries ∨ ∃ record ∈ records, Stages lib limits record entry := by
  induction records generalizing stage report with
  | nil =>
    cases ended
    simp
  | cons record records ih =>
    rw [readAll] at ended
    dsimp only at ended
    simp only [List.exists_mem_cons_iff]
    have alike := fun second => @readInput_alike lib limits stage second record
    by_cases failed : (readInput lib limits stage record).2 < 0
    · split_ifs at ended with stops
      · rw [Prod.mk.injEq, Prod.mk.injEq] at ended
        omega
      have passing : passes (readInput lib limits stage record).2 = true := by simp_all [passes]
      obtain ⟨_, added, entries, _⟩ := alike stage passing passing
      have nothing : ¬ Stages lib limits record entry := by
        rintro ⟨other, _, accepted, _⟩
        have same := (alike other passing (by simp [passes, accepted])).1
        omega
      rw [ih ended]
      simp [BlocklistStage.restore, entries, nothing]
    · rw [if_neg failed] at ended
      have passing : passes (readInput lib limits stage record).2 = true := by
        simp [passes, Int.not_lt.mp failed]
      obtain ⟨_, added, entries, _⟩ := alike stage passing passing
      have here : Stages lib limits record entry ↔ entry ∈ added := by
        constructor
        · rintro ⟨other, found, accepted, otherEntries, member⟩
          obtain ⟨_, both, same, otherSame⟩ := alike other passing (by simp [passes, accepted])
          rw [List.append_cancel_left (entries.symm.trans same)]
          rwa [← List.append_cancel_left (otherEntries.symm.trans otherSame)]
        · exact fun member => ⟨stage, added, Int.not_lt.mp failed, entries, member⟩
      rw [ih ended, entries, List.mem_append, here, or_assoc]

/-! ## The canonical order -/

instance : TransCmp sortEntryCompare := by
  have := transCmp_on compareBytes BlocklistEntry.domain
  have := transCmp_on compareBytes BlocklistEntry.category
  exact inferInstanceAs (TransCmp (compareLex
    (fun left right => compareBytes left.domain right.domain)
    (compareLex (compareOn fun entry : BlocklistEntry => entry.category.isEmpty.toNat)
      fun left right => compareBytes left.category right.category)))

def NotAfter (left right : BlocklistEntry) : Prop := sortEntryCompare left right ≠ .gt

theorem eq_of_sortEntryCompare (same : sortEntryCompare left right = .eq) : left = right := by
  simp only [sortEntryCompare, Ordering.then_eq_eq, compareBytes_eq_iff] at same
  cases left
  simp_all

instance : Std.Antisymm NotAfter where
  antisymm left right first second := by
    apply eq_of_sortEntryCompare
    cases compared : sortEntryCompare left right with
    | eq => rfl
    | lt => exact absurd (OrientedCmp.gt_of_lt compared) second
    | gt => exact absurd compared first

theorem NotAfter.domain (ordered : NotAfter left right) :
    compareBytes left.domain right.domain ≠ .gt :=
  fun after => ordered (by simp [sortEntryCompare, after])

def domainCanon : Canon BlocklistEntry where
  content left right := compareBytes left.domain right.domain
  identifier _ := 0
  same left right := left.domain == right.domain
  contentTrans := transCmp_on compareBytes BlocklistEntry.domain
  same_iff left right := by simp [compareBytes_eq_iff]

theorem uniqueEntries_strict (stage : BlocklistStage) :
    (uniqueEntries stage).Pairwise fun left right =>
      compareBytes left.domain right.domain = .lt := by
  have := total_ne_gt sortEntryCompare
  have := isTrans_ne_gt sortEntryCompare
  refine (@Canon.retainDistinct_strict _ domainCanon _ none nofun ?_).1
  refine (List.pairwise_insertionSort _ stage.entries).imp fun {left right} ordered after => ?_
  refine NotAfter.domain ordered ?_
  simpa [Canon.order, domainCanon] using after

theorem mem_uniqueEntries :
    entry ∈ uniqueEntries stage ↔ entry ∈ stage.entries ∧
      ∀ other ∈ stage.entries, other.domain = entry.domain → NotAfter entry other := by
  have := total_ne_gt sortEntryCompare
  have := isTrans_ne_gt sortEntryCompare
  let sorted := stage.entries.insertionSort fun left right => sortEntryCompare left right ≠ .gt
  have perm : sorted.Perm stage.entries := List.perm_insertionSort ..
  have staged : ∀ {kept}, kept ∈ uniqueEntries stage → kept ∈ stage.entries := fun kept =>
    perm.mem_iff.mp ((retainDistinct_sublist ..).subset kept)
  have first : ∀ other ∈ stage.entries, ∃ kept ∈ uniqueEntries stage,
      kept.domain = other.domain ∧ NotAfter kept other := by
    intro other member
    obtain ⟨kept, place, same, ordered⟩ := @retainDistinct_first _
      (fun left right => left.domain == right.domain) NotAfter (by simp)
      (by simp [NotAfter, ReflCmp.compare_self]) sorted none nofun
      (List.pairwise_insertionSort (fun left right => sortEntryCompare left right ≠ .gt) _)
      other (perm.mem_iff.mpr member)
    exact ⟨kept, place.resolve_left nofun, by simpa using same, ordered⟩
  constructor
  · refine fun member => ⟨staged member, fun other otherMember same => ?_⟩
    obtain ⟨kept, keptMember, sameDomain, ordered⟩ := first other otherMember
    have single : kept = entry := @Canon.eq_of_strict _ domainCanon _ _ _
      (uniqueEntries_strict stage) keptMember member
      (compareBytes_eq_iff.mpr (sameDomain.trans same))
    exact single ▸ ordered
  · rintro ⟨member, least⟩
    obtain ⟨kept, keptMember, sameDomain, ordered⟩ := first entry member
    have single : entry = kept :=
      Std.Antisymm.antisymm _ _ (least kept (staged keptMember) sameDomain) ordered
    exact single ▸ keptMember

theorem uniqueEntries_congr (same : ∀ entry, entry ∈ stage.entries ↔ entry ∈ other.entries) :
    uniqueEntries stage = uniqueEntries other := by
  have : Std.Irrefl fun left right : BlocklistEntry =>
      compareBytes left.domain right.domain = .lt :=
    ⟨fun entry => by simp [ReflCmp.compare_self]⟩
  have : Std.Antisymm fun left right : BlocklistEntry =>
      compareBytes left.domain right.domain = .lt :=
    ⟨fun _ _ first second => by simp [OrientedCmp.gt_of_lt first] at second⟩
  refine (uniqueEntries_strict stage).eq_of_mem_iff (uniqueEntries_strict other) fun entry => ?_
  simp only [mem_uniqueEntries, same]

/-! ## Imports of the same records -/

variable {loadJson} {format : ImportFormat}

theorem parseRecords_eq_readAll (format : BlocklistFormat) (mode : BlocklistMode)
    (stage : BlocklistStage) (report : BlocklistReport) (records : List Bytes) :
    parseRecords lib limits format mode stage report records =
      readAll lib limits mode stage report (records.map fun record =>
        .line format (record.takeWhile fun value => value != newline)) := by
  have line : ∀ stage record, readRecord lib limits format stage
      (record.takeWhile fun value => value != newline) =
        readRecord lib limits format stage record := by
    simp [readRecord, List.takeWhile_idem]
  induction records generalizing stage report with
  | nil => rfl
  | cons record records ih => simp only [parseRecords, List.map_cons, readAll, readInput, line, ih]

variable {imported : ImportedBlocklist} {attribution : Bytes}

theorem finalizeBlocklist_ok
    (made : finalizeBlocklist lib stage attribution parsed = (.ok imported, report)) :
    imported.entries = uniqueEntries stage ∧
      imported.checksum = blocklistChecksum lib (uniqueEntries stage) ∧
      report.entriesParsed = parsed.entriesParsed ∧
      report.duplicatesRemoved = stage.entries.length - (uniqueEntries stage).length := by
  unfold finalizeBlocklist at made
  dsimp only at made
  split_ifs at made
  · cases made
  · cases made
    exact ⟨rfl, rfl, rfl, rfl⟩

/-- The text of a JSON input has an `entries` array. -/
def Loads (loadJson : Bytes → JsonText) (format : ImportFormat) (data : Bytes) : Prop :=
  format = .json → ∃ items, loadJson data = .items items

theorem importInput_eq (loads : Loads loadJson format data)
    (checked : importChecks limits attribution data = .ok ()) :
    importInput lib limits loadJson format mode attribution data =
      let read := readAll lib limits mode {} {} (recordsOf loadJson format data)
      let parsed := { read.2.1 with entriesParsed := read.1.entries.length }
      if read.2.2 = 0 then finalizeBlocklist lib read.1 attribution parsed
      else (.error read.2.2, parsed) := by
  cases format with
  | text format =>
    simp only [importInput, blocklistImport, checked, parseText, parseRecords_eq_readAll]
    rfl
  | json =>
    obtain ⟨items, loaded⟩ := loads rfl
    simp only [importInput, checked, parseJson, recordsOf, loaded]

theorem importInput_checked
    (accepted : importInput lib limits loadJson format mode attribution data =
      (.ok imported, report)) :
    Loads loadJson format data ∧ importChecks limits attribution data = .ok () := by
  constructor
  · rintro rfl
    simp only [importInput] at accepted
    split at accepted
    · cases accepted
    cases loaded : loadJson data with
    | items items => exact ⟨items, rfl⟩
    | _ => simp [loaded, parseJson, eInval] at accepted
  · cases checks : importChecks limits attribution data with
    | ok => rfl
    | error code => cases format <;> simp [importInput, blocklistImport, checks] at accepted

theorem importInput_ok (accepted : importInput lib limits loadJson format mode attribution data =
      (.ok imported, report)) :
    ∃ stage parsed, readAll lib limits mode {} {} (recordsOf loadJson format data) =
        (stage, parsed, 0) ∧
      finalizeBlocklist lib stage attribution
        { parsed with entriesParsed := stage.entries.length } = (.ok imported, report) := by
  obtain ⟨loads, checked⟩ := importInput_checked accepted
  rw [importInput_eq loads checked] at accepted
  dsimp only at accepted
  split_ifs at accepted with ended
  · exact ⟨_, _, Prod.ext rfl (Prod.ext rfl ended), accepted⟩
  · cases accepted

theorem finalizeBlocklist_congr (same : uniqueEntries other = uniqueEntries stage)
    (made : finalizeBlocklist lib stage attribution parsed = (.ok imported, report)) :
    ∃ reported, finalizeBlocklist lib other attribution otherParsed = (.ok imported, reported) := by
  unfold finalizeBlocklist at made ⊢
  rw [same]
  dsimp only at made ⊢
  split_ifs at made ⊢
  · cases made
  · cases made
    exact ⟨_, rfl⟩

/-! ## Limits -/

/-- The errors of an input that is too large. -/
def limitErrors : List Int := [eFBig, e2Big, eOverflow]

theorem importChecks_limited (clean : other.contains 0 = false)
    (checked : importChecks limits attribution data = .ok ()) :
    importChecks limits attribution other = .ok () ∨
      importChecks limits attribution other = .error eFBig := by
  unfold importChecks at checked ⊢
  rw [clean]
  split_ifs at checked ⊢ <;> simp_all

theorem readInput_reads (stage : BlocklistStage) (record : InputRecord) :
    Reads limits stage (readInput lib limits stage record) := by
  unfold readInput
  split
  · exact readRecord_reads ..
  · dsimp only
    split_ifs
    · exact .unchanged (.inr rfl)
    · exact .unchanged (.inr rfl)
    · exact stageEntry_reads ..
  · exact .unchanged (.inr rfl)

/-- Strict mode reads to the end only over records without an error. -/
theorem readAll_strict (ended : (readAll lib limits .strict stage report records).2.2 = 0) :
    ∀ record ∈ records, ∃ stage, 0 ≤ (readInput lib limits stage record).2 := by
  induction records generalizing stage report with
  | nil => exact fun _ member => absurd member List.not_mem_nil
  | cons record records ih =>
    rw [readAll] at ended
    dsimp only at ended
    by_cases failed : (readInput lib limits stage record).2 < 0
    · rw [if_pos failed, if_pos (.inl rfl)] at ended
      exact absurd ended failed.ne
    · rw [if_neg failed] at ended
      exact List.forall_mem_cons.mpr ⟨⟨stage, Int.not_lt.mp failed⟩, ih ended⟩

theorem readAll_limited (sound : mode = .strict → ∀ record ∈ records,
      ∃ stage, 0 ≤ (readInput lib limits stage record).2) :
    (readAll lib limits mode stage report records).2.2 = 0 ∨
      (readAll lib limits mode stage report records).2.2 ∈ limitErrors := by
  induction records generalizing stage report with
  | nil => exact .inl rfl
  | cons record records ih =>
    have rest := fun {stage report} => @ih stage report fun strict other member =>
      sound strict other (List.mem_cons_of_mem _ member)
    rw [readAll]
    dsimp only
    split_ifs with failed stops
    · refine .inr ?_
      rcases (@readInput_reads lib limits stage record).result with
        passed | recoverable | ⟨full, _⟩ | overflow
      · exact absurd failed (Int.not_lt.mpr passed)
      · -- A record that some reading accepts is refused by none for its own sake.
        obtain strict | ignored := stops
        · obtain ⟨other, passed⟩ := sound strict record List.mem_cons_self
          have alike := @readInput_alike lib limits stage other record
          have same := (alike (by simp [passes, recoverable]) (by simp [passes, passed])).1
          omega
        · simp [recoverable] at ignored
      · simp [full, limitErrors]
      · simp [overflow, limitErrors]
    · exact rest
    · exact rest

/-- Accepted inputs give strictly sorted lists.  The same records in any order, any number of times,
give the same list unless a limit is reached. -/
theorem blocklist_canonical {mode : BlocklistMode} {attribution data : Bytes}
    {imported : ImportedBlocklist} {report : BlocklistReport}
    (accepted : importInput lib limits loadJson format mode attribution data =
      (.ok imported, report)) :
    imported.entries.Pairwise (fun left right => compareBytes left.domain right.domain = .lt) ∧
      report.entriesParsed = imported.entries.length + report.duplicatesRemoved ∧
      ∀ other, (∀ record, record ∈ recordsOf loadJson format other ↔
          record ∈ recordsOf loadJson format data) →
        other.contains 0 = false → Loads loadJson format other →
        (∃ otherReport, importInput lib limits loadJson format mode attribution other =
            (.ok imported, otherReport)) ∨
          ∃ code ∈ limitErrors,
            (importInput lib limits loadJson format mode attribution other).1 = .error code := by
  obtain ⟨stage, parsed, ended, made⟩ := importInput_ok accepted
  obtain ⟨entries, checksum, counted, duplicates⟩ := finalizeBlocklist_ok made
  refine ⟨entries ▸ uniqueEntries_strict stage, ?_, ?_⟩
  · have fewer : (uniqueEntries stage).length ≤ stage.entries.length :=
      ((retainDistinct_sublist ..).length_le).trans (List.length_insertionSort ..).le
    rw [counted, entries, duplicates]
    dsimp only
    omega
  intro other same clean loads
  obtain ⟨_, checked⟩ := importInput_checked accepted
  rcases importChecks_limited clean checked with otherChecked | large
  · rw [importInput_eq loads otherChecked]
    dsimp only
    have sound : mode = .strict → ∀ record ∈ recordsOf loadJson format other,
        ∃ stage, 0 ≤ (readInput lib limits stage record).2 := by
      rintro rfl record member
      exact readAll_strict (congrArg (fun read => read.2.2) ended) record ((same record).mp member)
    rcases @readAll_limited lib limits {} {} mode _ sound with otherEnded | limited
    · rw [if_pos otherEnded]
      refine .inl (finalizeBlocklist_congr (uniqueEntries_congr fun entry => ?_) made)
      rw [mem_readAll (Prod.ext rfl (Prod.ext rfl otherEnded)), mem_readAll ended]
      simp only [same]
    · refine .inr ⟨_, limited, ?_⟩
      rw [if_neg (fun zero => absurd (zero ▸ limited) (by decide))]
  · refine .inr ⟨eFBig, by decide, ?_⟩
    cases format <;> simp [importInput, blocklistImport, large]

section Example

def plainLibraries : Libraries where
  idn2LookupU8 _ := none
  inetPton4 _ := false
  inetPton6 _ := false
  sha256 _ := []

def noJson (_ : Bytes) : JsonText := .unsupported

/-- Two records, and the same ones in the other order. -/
theorem blocklist_canonical_swapped :
    ∃ imported report, importInput plainLibraries {} noJson (.text .domain) .strict [0x61]
        [0x62, 0x0a, 0x61, 0x0a] = (.ok imported, report) ∧
      imported.entries = [⟨[0x61], []⟩, ⟨[0x62], []⟩] := by
  have accepted : importInput plainLibraries {} noJson (.text .domain) .strict [0x61]
      [0x61, 0x0a, 0x62, 0x0a] =
        (.ok ⟨[0x61], [⟨[0x61], []⟩, ⟨[0x62], []⟩], []⟩, ⟨2, 2, 0, 0, 0, 0⟩) := by
    decide +kernel
  have swapped : (recordsOf noJson (.text .domain) [0x62, 0x0a, 0x61, 0x0a]).Perm
      (recordsOf noJson (.text .domain) [0x61, 0x0a, 0x62, 0x0a]) := by
    decide +kernel
  rcases (blocklist_canonical accepted).2.2 _ (fun _ => swapped.mem_iff) (by decide) nofun with
    ⟨report, same⟩ | ⟨code, _, refused⟩
  · exact ⟨_, report, same, rfl⟩
  · have ended : (importInput plainLibraries {} noJson (.text .domain) .strict [0x61]
        [0x62, 0x0a, 0x61, 0x0a]).1.toOption.isSome = true := by
      decide +kernel
    rw [refused] at ended
    cases ended

/-- With room for one entry, a record is imported once and refused twice. -/
theorem repeated_records_refused :
    recordsOf noJson (.text .domain) [0x61, 0x0a, 0x61, 0x0a] =
      recordsOf noJson (.text .domain) [0x61, 0x0a] ++
        recordsOf noJson (.text .domain) [0x61, 0x0a] ∧
    (importInput plainLibraries ⟨64, 64, 1⟩ noJson (.text .domain) .strict [0x61]
      [0x61, 0x0a]).1 = .ok ⟨[0x61], [⟨[0x61], []⟩], []⟩ ∧
    (importInput plainLibraries ⟨64, 64, 1⟩ noJson (.text .domain) .strict [0x61]
      [0x61, 0x0a, 0x61, 0x0a]).1 = .error e2Big := by
  decide +kernel

end Example

end JanusGate.Blocklist
