import Mathlib.Data.List.Flatten
import JanusGate.Common.Policy

/-!
# Importing a blocklist

`blocklist.c` for the four text formats: the record parsers, the loop over
the lines, the canonical order with its checksum and the checks around them.
A span is the list of its bytes and a staged string is the string itself.
The conversions of libidn2, `inet_pton` and SHA-256 are parameters;
allocations succeed.  The JSON format is in `BlocklistCanonical`.
-/

namespace JanusGate.Blocklist

open Policy List

def blocklistCategoryMax : Nat := 128
def blocklistAttributionMax : Nat := 255
def inet6AddrStrLen : Nat := 46
def newline : UInt8 := 0x0a

/-- The conversions of the libraries. -/
structure Libraries where
  idn2LookupU8 : Bytes → Option Bytes
  inetPton4 : Bytes → Bool
  inetPton6 : Bytes → Bool
  sha256 : Bytes → Bytes

inductive BlocklistFormat where
  | domain
  | hosts
  | category
  | rpz
  deriving DecidableEq

inductive BlocklistMode where
  | strict
  | tolerant
  deriving DecidableEq

structure BlocklistLimits where
  maxFileBytes : Nat := 64 * 1024 * 1024
  maxLineBytes : Nat := 4096
  maxEntries : Nat := 1000000
  deriving DecidableEq

structure BlocklistReport where
  recordsSeen : Nat := 0
  entriesParsed : Nat := 0
  recordsRejected : Nat := 0
  duplicatesRemoved : Nat := 0
  firstErrorRecord : Nat := 0
  firstError : Int := 0
  deriving DecidableEq

structure BlocklistEntry where
  domain : Bytes
  category : Bytes
  deriving DecidableEq

/-- The staged entries in order, and the bytes their strings take. -/
structure BlocklistStage where
  entries : List BlocklistEntry := []
  stringsSize : Nat := 0
  deriving DecidableEq

structure ImportedBlocklist where
  attribution : Bytes
  entries : List BlocklistEntry
  checksum : Bytes
  deriving DecidableEq

/-! ## Spans -/

def isSpace (value : UInt8) : Bool :=
  value == 0x20 || value == 0x09 || value == 0x0d || value == 0x0a || value == 0x0c || value == 0x0b

variable (span : Bytes)

def trimSpan : Bytes := ((span.dropWhile isSpace).reverse.dropWhile isSpace).reverse

/-- The bytes before the first comment marker at a token boundary. -/
def beforeComment (semicolon : Bool) : Bool → Bytes → Bytes
  | _, [] => []
  | boundary, value :: rest =>
    if (value == 0x23 || (semicolon && value == 0x3b)) && boundary then []
    else value :: beforeComment semicolon (isSpace value) rest

def stripComment (semicolon : Bool) : Bytes := trimSpan (beforeComment semicolon true span)

def nextToken (remaining : Bytes) : Bytes × Bytes :=
  (trimSpan remaining).span fun value => !isSpace value

/-- The nonempty tokens of a span; its length is fuel enough. -/
def tokensFrom : Nat → Bytes → List Bytes
  | 0, _ => []
  | fuel + 1, remaining =>
    match nextToken remaining with
    | ([], _) => []
    | (token, rest) => token :: tokensFrom fuel rest

def tokens : List Bytes := tokensFrom span.length span

def spanEqualsCaseInsensitive (literal : String) : Bool :=
  span.map lowerAscii == literal.toUTF8.toList.map lowerAscii

def continuation (value : UInt8) : Bool := value &&& 0xc0 == 0x80

/-- The loop of `jg_utf8_text_valid`. -/
def utf8Sequences : Bytes → Bool
  | [] => true
  | first :: rest =>
    if first ≤ 0x7f then decide (0x20 ≤ first) && first != 0x7f && utf8Sequences rest
    else if 0xc2 ≤ first ∧ first ≤ 0xdf then
      match rest with
      | second :: rest => continuation second && utf8Sequences rest
      | _ => false
    else if 0xe0 ≤ first ∧ first ≤ 0xef then
      match rest with
      | second :: third :: rest =>
        continuation second && continuation third && !(first == 0xe0 && decide (second < 0xa0)) &&
          !(first == 0xed && decide (second > 0x9f)) &&
          utf8Sequences rest
      | _ => false
    else if 0xf0 ≤ first ∧ first ≤ 0xf4 then
      match rest with
      | second :: third :: fourth :: rest =>
        continuation second && continuation third && continuation fourth &&
          !(first == 0xf0 && decide (second < 0x90)) &&
          !(first == 0xf4 && decide (second > 0x8f)) &&
          utf8Sequences rest
      | _ => false
    else false

def utf8TextValid (data : Bytes) (allowEmpty : Bool) : Bool :=
  (allowEmpty || !data.isEmpty) && utf8Sequences data

/-! ## Records -/

section Records

variable (lib : Libraries) (limits : BlocklistLimits)

def stageEntry (stage : BlocklistStage) (domain category : Bytes) : BlocklistStage × Int :=
  let name := trimSpan domain
  let label := trimSpan category
  if stage.entries.length ≥ limits.maxEntries then (stage, e2Big)
  else if name.length = 0 ∨ name.length ≥ domainNameMax * 4 + 2 ∨
      label.length > blocklistCategoryMax then
    (stage, eInval)
  else if !utf8TextValid label true then (stage, eIlSeq)
  else
    match domainNormalize lib.idn2LookupU8 name (domainNameMax + 1) with
    | .error _ => (stage, eInval)
    | .ok normalized =>
      -- the category counts with the spaces around it
      let required := stage.stringsSize + (normalized.length + 1) + (category.length + 1)
      if required > uint32Max then (stage, eOverflow)
      else
        ({ entries := stage.entries ++ [⟨normalized, label⟩]
           stringsSize := required }, 0)

def parseDomainRecord (stage : BlocklistStage) (line : Bytes) : BlocklistStage × Int :=
  match stripComment line true with
  | [] => (stage, 1)
  | name => stageEntry lib limits stage name []

def parseCategoryRecord (stage : BlocklistStage) (line : Bytes) : BlocklistStage × Int :=
  match stripComment line false with
  | [] => (stage, 1)
  | fields =>
    let (domain, category) := fields.span fun value => value != 0x2c && value != 0x09
    stageEntry lib limits stage domain (category.drop 1)

/-- The hostname loop of `parse_hosts_record`. -/
def stageHostnames : BlocklistStage → List Bytes → BlocklistStage × Int
  | stage, [] => (stage, 0)
  | stage, hostname :: hostnames =>
    let (staged, result) := stageEntry lib limits stage hostname []
    if result = 0 then stageHostnames staged hostnames else (staged, result)

def parseHostsRecord (stage : BlocklistStage) (line : Bytes) : BlocklistStage × Int :=
  let fields := stripComment line false
  if fields.isEmpty then (stage, 1)
  else
    match tokens fields with
    | [] => (stage, eInval)
    | address :: hostnames =>
      if address.length ≥ inet6AddrStrLen ∨ (!lib.inetPton4 address && !lib.inetPton6 address) then
        (stage, eInval)
      else
        let (staged, result) := stageHostnames lib limits stage hostnames
        if result = 0 ∧ staged.entries.length = stage.entries.length then (staged, eInval)
        else (staged, result)

/-- The record types that end the search of `parse_rpz_record`. -/
def rpzIgnored (token : Bytes) : Bool :=
  spanEqualsCaseInsensitive token "SOA" || spanEqualsCaseInsensitive token "NS"

def rpzBlocks (target : Bytes) : Bool :=
  spanEqualsCaseInsensitive target "." ||
    spanEqualsCaseInsensitive target "rpz-drop." ||
    spanEqualsCaseInsensitive target "rpz-nxdomain."

def parseRpzRecord (stage : BlocklistStage) (line : Bytes) : BlocklistStage × Int :=
  let fields := stripComment line true
  if fields.isEmpty then (stage, 1)
  else
    match (tokens fields).take 10 with
    | [] => (stage, 1)
    | owner :: others =>
      if owner.head? = some 0x24 then (stage, 1)
      else
        match others.dropWhile fun token =>
            !(spanEqualsCaseInsensitive token "CNAME" ||
              rpzIgnored token) with
        | [] => (stage, eInval)
        | type :: arguments =>
          if rpzIgnored type then (stage, 1)
          else if arguments.head?.any rpzBlocks then stageEntry lib limits stage owner []
          else (stage, eInval)

def parseTextRecord (format : BlocklistFormat) (stage : BlocklistStage)
    (line : Bytes) : BlocklistStage × Int :=
  match format with
  | .domain => parseDomainRecord lib limits stage line
  | .hosts => parseHostsRecord lib limits stage line
  | .category => parseCategoryRecord lib limits stage line
  | .rpz => parseRpzRecord lib limits stage line

end Records

/-! ## The import -/

/-- The errors that tolerant mode skips. -/
def recordErrorRecoverable (result : Int) : Bool :=
  result == eInval || result == eIlSeq || result == eMsgSize

def reportRejection (report : BlocklistReport) (record : Nat) (result : Int) : BlocklistReport :=
  let counted := { report with recordsRejected := report.recordsRejected + 1 }
  if report.firstError = 0 then { counted with firstErrorRecord := record, firstError := result }
  else counted

def BlocklistStage.restore (parsed old : BlocklistStage) : BlocklistStage where
  entries := parsed.entries.take old.entries.length
  stringsSize := old.stringsSize

/-- The records of an input, each with the newline that ends it. -/
def splitRecords : Bytes → List Bytes
  | [] => []
  | value :: rest =>
    if value = newline then [value] :: splitRecords rest
    else
      match splitRecords rest with
      | [] => [[value]]
      | record :: records => (value :: record) :: records

section Import

variable (lib : Libraries) (limits : BlocklistLimits) (format : BlocklistFormat)

def readRecord (stage : BlocklistStage) (record : Bytes) : BlocklistStage × Int :=
  let line := record.takeWhile fun value => value != newline
  if line.length > limits.maxLineBytes then (stage, eMsgSize)
  else parseTextRecord lib limits format stage line

/-- The line loop of `parse_text`. -/
def parseRecords (mode : BlocklistMode) : BlocklistStage → BlocklistReport → List Bytes →
      BlocklistStage × BlocklistReport × Int
  | stage, report, [] => (stage, report, 0)
  | stage, report, record :: records =>
    let seen := { report with recordsSeen := report.recordsSeen + 1 }
    let (parsed, result) := readRecord lib limits format stage record
    if result < 0 then
      let restored := parsed.restore stage
      let rejected := reportRejection seen seen.recordsSeen result
      if mode = .strict ∨ recordErrorRecoverable result = false then (restored, rejected, result)
      else parseRecords mode restored rejected records
    else parseRecords mode parsed seen records

variable (mode : BlocklistMode)

def parseText (data : Bytes) : BlocklistStage × BlocklistReport × Int :=
  let (stage, report, result) := parseRecords lib limits format mode {} {} (splitRecords data)
  (stage, { report with entriesParsed := stage.entries.length }, result)

/-- Order by domain, with a category before none. -/
def sortEntryCompare (left right : BlocklistEntry) : Ordering :=
  (compareBytes left.domain right.domain).then <|
  (compare left.category.isEmpty.toNat right.category.isEmpty.toNat).then <|
    compareBytes left.category right.category

def checksumString (value : Bytes) : Bytes :=
  ((range 8).map fun index => UInt8.ofNat (value.length / 256 ^ (7 - index))) ++ value

def blocklistChecksum (entries : List BlocklistEntry) : Bytes :=
  lib.sha256 ("JanusGate blocklist 1".toUTF8.toList ++ entries.flatMap fun entry =>
      checksumString entry.domain ++ checksumString entry.category)

def uniqueEntries (stage : BlocklistStage) : List BlocklistEntry :=
  retainDistinct (fun left right => left.domain == right.domain) none
    (stage.entries.insertionSort fun left right => sortEntryCompare left right ≠ .gt)

def packedSize (attribution : Bytes) (entries : List BlocklistEntry) : Nat :=
  attribution.length + 1 + (entries.map fun entry =>
    entry.domain.length + 1 + (entry.category.length + 1)).sum

def finalizeBlocklist (stage : BlocklistStage) (attribution : Bytes) (report : BlocklistReport) :
    Except Int ImportedBlocklist × BlocklistReport :=
  let unique := uniqueEntries stage
  if packedSize attribution unique > uint32Max then (.error eOverflow, report)
  else
    (.ok { attribution, entries := unique
           checksum := blocklistChecksum lib unique },
      { report with duplicatesRemoved := stage.entries.length - unique.length })

variable (attribution data : Bytes)

/-- The checks of `jg_blocklist_import` before any record is read. -/
def importChecks : Except Int Unit :=
  if limits.maxFileBytes = 0 ∨ limits.maxLineBytes = 0 ∨ limits.maxEntries = 0 then .error eInval
  else if data.length > limits.maxFileBytes then .error eFBig
  else if data.contains 0 then .error eIlSeq
  else if attribution.length = 0 ∨ attribution.length > blocklistAttributionMax then .error eInval
  else if !utf8TextValid attribution false then .error eIlSeq
  else .ok ()

def blocklistImport : Except Int ImportedBlocklist × BlocklistReport :=
  match importChecks limits attribution data with
  | .error code => (.error code, {})
  | .ok () =>
    let (stage, report, result) := parseText lib limits format mode data
    if result = 0 then finalizeBlocklist lib stage attribution report
    else (.error result, report)

/-! ## What reading a record can do -/

/-- Entries are only appended, and a failure belongs to the record or means
that a limit is reached. -/
structure Reads (stage : BlocklistStage) (outcome : BlocklistStage × Int) : Prop where
  appends : stage.entries <+: outcome.1.entries
  result : 0 ≤ outcome.2 ∨ recordErrorRecoverable outcome.2 = true ∨ (outcome.2 = e2Big ∧
      limits.maxEntries ≤ outcome.1.entries.length) ∨
    outcome.2 = eOverflow

variable {limits} in
theorem Reads.unchanged {stage : BlocklistStage} {result : Int}
    (kind : 0 ≤ result ∨ recordErrorRecoverable result = true) :
    Reads limits stage (stage, result) :=
  ⟨prefix_rfl, kind.imp_right .inl⟩

variable (stage : BlocklistStage)

theorem stageEntry_reads (domain category : Bytes) :
    Reads limits stage (stageEntry lib limits stage domain category) := by
  unfold stageEntry
  dsimp only
  split_ifs with full
  · exact ⟨prefix_rfl, .inr (.inr (.inl ⟨rfl, full⟩))⟩
  · exact .unchanged (.inr rfl)
  · exact .unchanged (.inr rfl)
  · split
    · exact .unchanged (.inr rfl)
    · split_ifs
      · exact ⟨prefix_rfl, .inr (.inr (.inr rfl))⟩
      · exact ⟨prefix_append _ _, .inl le_rfl⟩

theorem stageHostnames_reads (hostnames : List Bytes) :
    Reads limits stage (stageHostnames lib limits stage hostnames) := by
  induction hostnames generalizing stage with
  | nil => exact .unchanged (.inl le_rfl)
  | cons hostname hostnames ih =>
    have first := stageEntry_reads lib limits stage hostname []
    rw [stageHostnames]
    dsimp only
    split_ifs
    · have others := ih (stageEntry lib limits stage hostname []).1
      exact ⟨first.appends.trans others.appends, others.result⟩
    · exact first

theorem parseTextRecord_reads (line : Bytes) :
    Reads limits stage (parseTextRecord lib limits format stage line) := by
  cases format with
  | domain =>
    simp only [parseTextRecord, parseDomainRecord]
    split
    · exact .unchanged (.inl (by decide))
    · exact stageEntry_reads ..
  | category =>
    simp only [parseTextRecord, parseCategoryRecord]
    split
    · exact .unchanged (.inl (by decide))
    · exact stageEntry_reads ..
  | hosts =>
    simp only [parseTextRecord, parseHostsRecord]
    split
    · exact .unchanged (.inl (by decide))
    split
    · exact .unchanged (.inr rfl)
    rename_i address hostnames _
    have staged := stageHostnames_reads lib limits stage hostnames
    split_ifs
    · exact .unchanged (.inr rfl)
    · exact ⟨staged.appends, .inr (.inl rfl)⟩
    · exact staged
  | rpz =>
    simp only [parseTextRecord, parseRpzRecord]
    repeat' split
    all_goals first
      | exact stageEntry_reads ..
      | exact .unchanged (.inl (by decide))
      | exact .unchanged (.inr rfl)

theorem readRecord_reads (record : Bytes) :
    Reads limits stage (readRecord lib limits format stage record) := by
  unfold readRecord
  dsimp only
  split
  · exact .unchanged (.inr rfl)
  · exact parseTextRecord_reads ..

/-- A rejected record leaves nothing behind, whatever it staged. -/
theorem restore_readRecord (record : Bytes) :
    (readRecord lib limits format stage record).1.restore stage = stage := by
  obtain ⟨added, appended⟩ := (readRecord_reads lib limits format stage record).appends
  simp [BlocklistStage.restore, ← appended]

/-! ## The records that a tolerant import keeps -/

/-- The records without those that a tolerant import skips. -/
def keptRecords : BlocklistStage → List Bytes → List Bytes
  | _, [] => []
  | stage, record :: records =>
    let (parsed, result) := readRecord lib limits format stage record
    if recordErrorRecoverable result then keptRecords stage records
    else if result < 0 then record :: records
    else record :: keptRecords parsed records

/-- The input without its rejected records; the checks before the first
record reject none. -/
def withoutRejected : Bytes :=
  match importChecks limits attribution data with
  | .error _ => data
  | .ok () => (keptRecords lib limits format {} (splitRecords data)).flatten

theorem parseRecords_cons (stage : BlocklistStage)
    (report : BlocklistReport) (record : Bytes) (records : List Bytes) :
    parseRecords lib limits format mode stage report (record :: records) =
      let seen := { report with recordsSeen := report.recordsSeen + 1 }
      let outcome := readRecord lib limits format stage record
      let rejected := reportRejection seen seen.recordsSeen outcome.2
      if outcome.2 < 0 then
        if mode = .strict ∨ recordErrorRecoverable outcome.2 = false then
          (stage, rejected, outcome.2)
        else parseRecords lib limits format mode stage rejected records
      else parseRecords lib limits format mode outcome.1 seen records := by
  rw [parseRecords]
  simp only [restore_readRecord]

theorem negative_of_recoverable (recoverable : recordErrorRecoverable result = true) :
    result < 0 := by
  simp only [recordErrorRecoverable, eInval, eIlSeq, eMsgSize,
    Bool.or_eq_true, beq_iff_eq] at recoverable
  omega

theorem reportRejection_rejected (report : BlocklistReport) (record : Nat) (result : Int) :
    (reportRejection report record result).recordsRejected = report.recordsRejected + 1 := by
  unfold reportRejection
  split <;> rfl

theorem keptRecords_sublist (records : List Bytes) :
    (keptRecords lib limits format stage records).Sublist records := by
  induction records generalizing stage with
  | nil => exact .slnil
  | cons record records ih =>
    rw [keptRecords]
    dsimp only
    split_ifs
    · exact (ih stage).cons record
    · exact List.Sublist.refl _
    · exact (ih _).cons_cons record

/-- Reading the kept records strictly ends like reading all of them tolerantly. -/
theorem parseRecords_kept (report other : BlocklistReport) (records : List Bytes) :
    let tolerant := parseRecords lib limits format .tolerant stage report records
    let kept := keptRecords lib limits format stage records
    let strict := parseRecords lib limits format .strict stage other kept
    tolerant.1 = strict.1 ∧ tolerant.2.2 = strict.2.2 ∧
      (tolerant.2.2 = 0 → tolerant.2.1.recordsRejected + kept.length =
        report.recordsRejected + records.length) := by
  induction records generalizing stage report other with
  | nil => exact ⟨rfl, rfl, fun _ => rfl⟩
  | cons record records ih =>
    rw [parseRecords_cons, keptRecords]
    dsimp only
    by_cases recoverable : recordErrorRecoverable
      (readRecord lib limits format stage record).2 = true
    · have negative := negative_of_recoverable recoverable
      rw [if_pos negative, if_neg (by simp [recoverable]), if_pos recoverable]
      obtain ⟨sameStage, sameResult, counted⟩ := ih stage _ other
      refine ⟨sameStage, sameResult, fun ended => ?_⟩
      rw [counted ended, reportRejection_rejected, length_cons]
      dsimp only
      omega
    · split_ifs with negative stops
      · rw [parseRecords_cons]
        simp [negative]
        omega
      · simp [recoverable] at stops
      rw [parseRecords_cons]
      simp only [if_neg negative, length_cons]
      obtain ⟨sameStage, sameResult, counted⟩ := ih (readRecord lib limits format stage record).1
        { report with recordsSeen := report.recordsSeen + 1 } _
      exact ⟨sameStage, sameResult, fun ended => by
        have := counted ended
        dsimp only at this
        omega⟩

/-! ## Cutting an input into records -/

/-- Lines that end in a newline, but for the last one. -/
inductive Cut : List Bytes → Prop
  | none : Cut []
  | last (free : newline ∉ line) (some : line ≠ []) : Cut [line]
  | line (free : newline ∉ line) (others : Cut records) : Cut ((line ++ [newline]) :: records)

theorem Cut.sublist (cut : Cut records) (fewer : kept.Sublist records) :
    Cut kept := by
  induction cut generalizing kept with
  | none =>
    rw [sublist_nil.mp fewer]
    exact .none
  | last free some =>
    cases fewer with
    | cons _ fewer =>
      rw [sublist_nil.mp fewer]
      exact .none
    | cons_cons _ fewer =>
      rw [sublist_nil.mp fewer]
      exact .last free some
  | line free _ ih =>
    cases fewer with
    | cons _ fewer => exact ih fewer
    | cons_cons _ fewer => exact .line free (ih fewer)

theorem splitRecords_cut (data : Bytes) : Cut (splitRecords data) := by
  induction data with
  | nil => exact .none
  | cons value rest ih =>
    rw [splitRecords]
    split_ifs with ends
    · rw [ends]
      exact @Cut.line [] _ not_mem_nil ih
    generalize splitRecords rest = records at ih
    cases ih with
    | none => exact .last (by simp [Ne.symm ends]) (by simp)
    | last free _ => exact .last (by simp [Ne.symm ends, free]) (by simp)
    | @line line _ free others =>
      exact @Cut.line (value :: line) _ (by simp [Ne.symm ends, free]) others

theorem splitRecords_line (free : newline ∉ line) (rest : Bytes) :
    splitRecords (line ++ newline :: rest) = (line ++ [newline]) :: splitRecords rest := by
  induction line with
  | nil => simp [splitRecords]
  | cons value line ih =>
    simp only [mem_cons, not_or] at free
    simp [splitRecords, Ne.symm free.1, ih free.2]

theorem Cut.splitRecords_flatten (cut : Cut records) : splitRecords records.flatten = records := by
  induction cut with
  | none => rfl
  | @last line free some =>
    simp only [flatten_cons, flatten_nil, append_nil]
    induction line with
    | nil => exact absurd rfl some
    | cons value line ih =>
      simp only [mem_cons, not_or] at free
      rcases line.eq_nil_or_concat with rfl | ⟨_, _, shape⟩
      · simp [splitRecords]
      · simp [splitRecords, Ne.symm free.1, ih free.2 (by simp [shape])]
  | line free _ ih => simp [splitRecords_line free, ih]

theorem splitRecords_flatten (data : Bytes) : (splitRecords data).flatten = data := by
  induction data with
  | nil => rfl
  | cons value rest ih =>
    rw [splitRecords]
    split_ifs
    · simp [ih]
    split
    · rename_i nothing
      simpa [nothing] using ih
    · rename_i cut
      rw [cut] at ih
      simpa using ih

/-! ## Tolerant and strict imports -/

/-- What makes a tolerant import fail. -/
inductive Stops (attribution data : Bytes) : Int → Prop
  | checks (refused : importChecks limits attribution data = .error code) :
      Stops attribution data code
  | limit {before after : List Bytes} {stage parsed : BlocklistStage}
      (passed : importChecks limits attribution data = .ok ())
      (position : splitRecords data = before ++ record :: after)
      (reached : parseRecords lib limits format .tolerant {} {} before = (stage, report, 0))
      (refused : readRecord lib limits format stage record = (parsed, code))
      (kind : (code = e2Big ∧ limits.maxEntries ≤ parsed.entries.length) ∨ code = eOverflow) :
      Stops attribution data code
  | packedSize {stage : BlocklistStage} (passed : importChecks limits attribution data = .ok ())
      (reached : parseRecords lib limits format .tolerant {} {}
        (splitRecords data) = (stage, report, 0))
      (large : uint32Max < packedSize attribution (uniqueEntries stage)) :
      Stops attribution data eOverflow

theorem parseRecords_append {mode : BlocklistMode} {stage after : BlocklistStage}
    (reached : parseRecords lib limits format mode stage report before = (after, reported, 0))
    (records : List Bytes) :
    parseRecords lib limits format mode stage report (before ++ records) =
      parseRecords lib limits format mode after reported records := by
  induction before generalizing stage report with
  | nil =>
    cases reached
    rfl
  | cons record before ih =>
    rw [parseRecords_cons] at reached
    rw [cons_append, parseRecords_cons]
    dsimp only at reached ⊢
    split_ifs at reached ⊢ with negative
    · rw [Prod.mk.injEq, Prod.mk.injEq] at reached
      omega
    · exact ih reached
    · exact ih reached

theorem parseRecords_stopped {stage : BlocklistStage}
    (failed : (parseRecords lib limits format .tolerant stage report records).2.2 ≠ 0) :
    ∃ before record after reachedStage reported, records = before ++ record :: after ∧
      parseRecords lib limits format .tolerant stage report before = (reachedStage, reported, 0) ∧
      (readRecord lib limits format reachedStage record).2 =
        (parseRecords lib limits format .tolerant stage report records).2.2 ∧
      (readRecord lib limits format reachedStage record).2 < 0 ∧
      recordErrorRecoverable (readRecord lib limits format reachedStage record).2 = false := by
  induction records generalizing stage report with
  | nil => exact absurd rfl failed
  | cons record records ih =>
    rw [parseRecords_cons] at failed ⊢
    dsimp only at failed ⊢
    split_ifs at failed ⊢ with negative stops
    · exact ⟨[], record, records, stage, report, rfl, rfl, rfl, negative, by simpa using stops⟩
    all_goals
      obtain ⟨before, next, after, reachedStage, reported, rfl, reached, found⟩ := ih failed
      refine ⟨record :: before, next, after, reachedStage, reported, rfl, ?_, found⟩
      rw [parseRecords_cons]
      simp_all

theorem blocklistImport_result (mode : BlocklistMode) {attribution data : Bytes}
    (passed : importChecks limits attribution data = .ok ()) :
    let parsed := parseRecords lib limits format mode {} {} (splitRecords data)
    let imported := blocklistImport lib limits format mode attribution data
    imported.1 = (if parsed.2.2 = 0 then (finalizeBlocklist lib parsed.1 attribution {}).1
      else .error parsed.2.2) ∧
    imported.2.recordsRejected = parsed.2.1.recordsRejected := by
  rw [blocklistImport, passed]
  unfold parseText finalizeBlocklist
  dsimp only
  by_cases ended : (parseRecords lib limits format mode {} {} (splitRecords data)).2.2 = 0
  · split_ifs <;> exact ⟨rfl, rfl⟩
  · simp [if_neg ended]

theorem importChecks_sublist {attribution data fewer : Bytes}
    (passed : importChecks limits attribution data = .ok ()) (sublist : fewer.Sublist data) :
    importChecks limits attribution fewer = .ok () := by
  have shorter := sublist.length_le
  unfold importChecks at passed ⊢
  split_ifs at passed ⊢ with _ _ _ _ _ _ zero
  · omega
  · rename_i free _ _
    exact absurd (by simpa using sublist.subset (by simpa using zero)) (by simpa using free)
  · rfl

/-- A tolerant import ends as the strict import of the input without the rejected records, and never
fails for a record. -/
theorem tolerant_import_eq_strict (attribution data : Bytes) :
    let tolerant := blocklistImport lib limits format .tolerant attribution data
    let kept := withoutRejected lib limits format attribution data
    tolerant.1 = (blocklistImport lib limits format .strict attribution kept).1 ∧
      (splitRecords kept).Sublist (splitRecords data) ∧
      (∀ imported, tolerant.1 = .ok imported →
        tolerant.2.recordsRejected + (splitRecords kept).length = (splitRecords data).length) ∧
      ∀ code, tolerant.1 = .error code ↔ Stops lib limits format attribution data code := by
  dsimp only
  rcases checked : importChecks limits attribution data with code | _
  · have refused : ∀ mode, blocklistImport lib limits format mode attribution
        data = (.error code, {}) := by
      intro mode
      rw [blocklistImport, checked]
    rw [withoutRejected, checked]
    simp only [refused, List.Sublist.refl, true_and, reduceCtorEq,
      false_implies, implies_true, Except.error.injEq]
    intro other
    constructor
    · rintro rfl
      exact .checks checked
    rintro (failed | ⟨passed, _⟩ | ⟨passed, _⟩)
    · rw [checked] at failed
      exact Except.error.inj failed
    all_goals
      rw [checked] at passed
      contradiction
  · have fewer := keptRecords_sublist lib limits format {} (splitRecords data)
    have cut := ((splitRecords_cut data).sublist fewer).splitRecords_flatten
    have passed := importChecks_sublist limits checked (splitRecords_flatten data ▸ fewer.flatten)
    obtain ⟨result, counted⟩ := blocklistImport_result lib limits format .tolerant checked
    obtain ⟨strictResult, _⟩ := blocklistImport_result lib limits format .strict passed
    obtain ⟨sameStage, sameResult, rejected⟩ :=
      parseRecords_kept lib limits format {} {} {} (splitRecords data)
    rw [withoutRejected, checked]
    rw [cut] at strictResult ⊢
    refine ⟨?_, fewer, ?_, fun code => ⟨fun failed => ?_, fun stops => ?_⟩⟩
    · rw [result, strictResult, ← sameStage, ← sameResult]
    · intro imported succeeded
      rw [result] at succeeded
      split_ifs at succeeded with ended
      rw [counted, rejected ended]
      exact Nat.zero_add _
    · rw [result] at failed
      split_ifs at failed with ended
      · unfold finalizeBlocklist at failed
        dsimp only at failed
        split_ifs at failed with large
        cases failed
        exact .packedSize checked (Prod.ext rfl (Prod.ext rfl ended)) large
      · obtain ⟨before, record, after, stage, report, position, reached, same,
          negative, fatal⟩ := parseRecords_stopped lib limits format ended
        rw [← same] at failed
        cases failed
        refine .limit checked position reached rfl ?_
        rcases (readRecord_reads lib limits format stage record).result with
          nonnegative | recoverable | limit
        · omega
        · rw [fatal] at recoverable
          contradiction
        · exact limit
    · rw [result]
      cases stops with
      | checks refused =>
        rw [checked] at refused
        contradiction
      | limit _ position reached refused kind =>
        have fatal : code < 0 ∧ recordErrorRecoverable code = false := by
          rcases kind with ⟨rfl, _⟩ | rfl <;> decide
        rw [position, parseRecords_append lib limits format reached, parseRecords_cons]
        simp [refused, fatal, fatal.1.ne]
      | packedSize _ reached large =>
        rw [reached]
        simp [finalizeBlocklist, large]

end Import

end JanusGate.Blocklist
