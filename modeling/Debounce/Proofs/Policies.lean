import Debounce.Proofs.Checks
import Debounce.Proofs.Turn

/-!
# Valid policies

A policy is read from three values of any kind and nesting. Each part of it is valid or not on its
own: the edge is a flag, the idle time is a duration or absent, and the interval is absent, ready
made, or written as a range with a begin and perhaps an end. A policy is built if and only if all
three parts are valid, and it holds the very durations that were read. Otherwise the complaints are
about the invalid parts, unless one of the durations is below the least one.
-/

namespace Debounce

/-- The begin and the end of an interval. -/
def Interval.ends (bounds : Interval) : Duration × Option Duration := (bounds.begin, bounds.limit?)

/-! ## Values that are valid parts of a policy -/

namespace Value

/-- The value is neither absent nor an interval, a sequence or a mapping. -/
def IsSingle : Value → Prop
  | null | list _ | tuple _ | mapping _ | interval _ => False
  | bool _ | int _ | float _ | text _ | bytes _ | duration _ => True

/-- The value is written as a range that has this begin and this end, as far as they are given. -/
inductive Gives : Value → Option Value → Option Value → Prop where
  | list (begin last : Value) : Gives (.list [begin, last]) (some begin) (some last)
  | tuple (begin last : Value) : Gives (.tuple [begin, last]) (some begin) (some last)
  | mapping (entries : List (String × Value)) :
      Gives (.mapping entries) (field? entries "begin") (field? entries "end")
  | single {value : Value} : value.IsSingle → Gives value (some value) none

/-- The value stands for an optional duration that is not negative. -/
inductive IsSpan : Value → Option Duration → Prop where
  | absent : IsSpan .null none
  | given {value : Value} {span : Duration} :
      value.toDuration = .ok span → Duration.zero ≤ span → IsSpan value (some span)

/-- The value stands for an optional range: a begin and perhaps an end, none of them negative and in
order. -/
inductive IsRange : Value → Option (Duration × Option Duration) → Prop where
  | absent : IsRange .null none
  | made (bounds : Interval) : IsRange (.interval bounds) (some bounds.ends)
  | openEnded {value begin : Value} {last? : Option Value} {least : Duration} :
      value.Gives (some begin) last? → last? = none ∨ last? = some .null →
      begin.toDuration = .ok least → Duration.zero ≤ least → IsRange value (some (least, none))
  | bounded {value begin last : Value} {least most : Duration} :
      value.Gives (some begin) (some last) →
      begin.toDuration = .ok least → last.toDuration = .ok most →
      Duration.zero ≤ least → least ≤ most → IsRange value (some (least, some most))

/-- The value is a duration below the least one. -/
def Underflows (value : Value) : Prop := value.toDuration = .error .underflow

/-- The value is written as a range whose begin or end is below the least duration. -/
def RangeUnderflows (value : Value) : Prop :=
  ∃ begin? last? part, value.Gives begin? last? ∧ (begin? = some part ∨ last? = some part) ∧
    part.Underflows

variable {value : Value} {span? : Option Duration}

theorem isSpan_iff :
    value.IsSpan span? ↔
      value = .null ∧ span? = none ∨
        ∃ span, value.toDuration = .ok span ∧ Duration.zero ≤ span ∧ span? = some span := by
  constructor
  · rintro (_ | ⟨read, nonneg⟩)
    · exact .inl ⟨rfl, rfl⟩
    · exact .inr ⟨_, read, nonneg, rfl⟩
  · rintro (⟨rfl, rfl⟩ | ⟨span, read, nonneg, rfl⟩)
    · exact .absent
    · exact .given read nonneg

theorem IsSpan.nonneg (span : value.IsSpan span?) :
    ∀ idle, span? = some idle → Duration.zero ≤ idle := by
  cases span with
  | absent => exact nofun
  | given _ nonneg => exact fun idle same => Option.some.inj same ▸ nonneg

/-- Reading an optional span. -/
theorem isSpan_iff_toSpan? {negative : Refusal} :
    value.IsSpan span? ↔ ∃ read?, value.toSpan? negative = .ok read? ∧
      span? = read?.map Subtype.val := by
  by_cases absent : value = .null
  · subst absent
    simp [isSpan_iff, toSpan?, toDuration]
  · simp only [isSpan_iff, absent, false_and, false_or, toSpan?_of_ne_null absent, map_eq_ok,
      toSpan_eq_ok]
    constructor
    · rintro ⟨span, read, nonneg, rfl⟩
      exact ⟨some ⟨span, nonneg⟩, ⟨⟨span, nonneg⟩, read, rfl⟩, rfl⟩
    · rintro ⟨_, ⟨⟨span, nonneg⟩, read, rfl⟩, rfl⟩
      exact ⟨span, read, nonneg, rfl⟩

end Value

/-! ## Intervals -/

namespace Interval

variable {path : List String} {fields : List (String × Value)} {bounds : Interval}
variable {value : Value} {begin? last? : Option Value} {bounds? : Option Interval}

/-- The check of the begin among the fields of an interval. -/
def checkBegin (path : List String) (begin? : Option Value) :
    Checked { span : Duration // Duration.zero ≤ span } :=
  Checked.atPath (path ++ ["begin"]) (match begin? with
    | none => .error (.refused .missing)
    | some value => value.toSpan .negativeInterval)

/-- The check of the end among the fields of an interval. -/
def checkEnd (path : List String) (last? : Option Value) :
    Checked (Option { span : Duration // Duration.zero ≤ span }) :=
  Checked.atPath (path ++ ["end"]) (match last? with
    | none => .ok none
    | some value => value.toSpan? .negativeInterval)

theorem nonneg_val (span : { span : Duration // Duration.zero ≤ span }) :
    Duration.zero ≤ span.val := span.property

/-- The check of an interval whose begin and end are given as they are among its fields. -/
def checkRange (path : List String) (begin? last? : Option Value) : Checked Interval :=
  match Checked.both (checkBegin path begin?) (checkEnd path last?) with
  | .error objection => .error objection
  | .ok (begin, last?) =>
      if ordered : ∀ last, last?.map Subtype.val = some last → begin.val ≤ last then
        .ok ⟨begin.val, last?.map Subtype.val, nonneg_val begin, ordered⟩
      else Checked.refuse path .endBeforeBegin

theorem ofFields_eq_checkRange :
    ofFields path fields =
      checkRange path (Value.field? fields "begin") (Value.field? fields "end") := rfl

/-- The check of a value that is written as a range. -/
theorem ofValue_of_gives (gives : value.Gives begin? last?) :
    ofValue path value = (checkRange path begin? last?).map some := by
  cases gives with
  | list | tuple | mapping => rfl
  | single single => cases value <;> first | exact single.elim | rfl

/-- How a value is written: it is absent, an interval, a range, or else a sequence that is no pair,
which is refused. -/
inductive Writing (path : List String) : Value → Prop where
  | absent : Writing path .null
  | made (bounds : Interval) : Writing path (.interval bounds)
  | range {value : Value} {begin? last? : Option Value} :
      value.Gives begin? last? → Writing path value
  | malformed {value : Value} :
      (∀ range?, ¬ value.IsRange range?) → ¬ value.RangeUnderflows →
      ofValue path value = Checked.refuse path .notAPair → Writing path value

/-- A sequence that is no pair stands for no range. -/
theorem malformed_of_not_gives (given : value ≠ .null) (unmade : ∀ bounds, value ≠ .interval bounds)
    (unwritten : ∀ begin? last?, ¬ value.Gives begin? last?)
    (refused : ofValue path value = Checked.refuse path .notAPair) : Writing path value := by
  refine .malformed ?_ ?_ refused
  · rintro range? (_ | bounds | gives | gives)
    · exact given rfl
    · exact unmade bounds rfl
    · exact unwritten _ _ gives
    · exact unwritten _ _ gives
  · rintro ⟨begin?, last?, _, gives, -⟩
    exact unwritten begin? last? gives

theorem writing (path : List String) (value : Value) : Writing path value := by
  cases value with
  | null => exact .absent
  | interval bounds => exact .made bounds
  | mapping entries => exact .range (.mapping entries)
  | bool | int | float | text | bytes | duration => exact .range (.single trivial)
  | list items =>
      match items with
      | [begin, last] => exact .range (.list begin last)
      | [] | [_] | _ :: _ :: _ :: _ =>
          refine malformed_of_not_gives (by simp) (by simp) ?_ rfl
          rintro _ _ (_ | _ | _ | single)
          exact single
  | tuple items =>
      match items with
      | [begin, last] => exact .range (.tuple begin last)
      | [] | [_] | _ :: _ :: _ :: _ =>
          refine malformed_of_not_gives (by simp) (by simp) ?_ rfl
          rintro _ _ (_ | _ | _ | single)
          exact single

/-- The begin is checked successfully if it is given as a duration that is not negative. -/
theorem checkBegin_eq_ok {span : { span : Duration // Duration.zero ≤ span }} :
    checkBegin path begin? = .ok span ↔
      ∃ begin, begin? = some begin ∧ begin.toDuration = .ok span.val := by
  cases begin? with
  | none => simp [checkBegin, Checked.atPath_eq_ok]
  | some begin => simp [checkBegin, Checked.atPath_eq_ok, Value.toSpan_eq_ok]

/-- An end that is absent is checked as one that is not given. -/
theorem checkEnd_eq : checkEnd path last? =
    Checked.atPath (path ++ ["end"]) ((last?.getD .null).toSpan? .negativeInterval) := by
  cases last? <;> rfl

theorem checkRange_eq_ok :
    checkRange path begin? last? = .ok bounds ↔
      ∃ begin, begin? = some begin ∧ begin.toDuration = .ok bounds.begin ∧
        (last?.getD .null).IsSpan bounds.limit? := by
  rw [checkRange]
  constructor
  · intro read
    split at read
    · cases read
    · next span read? parts =>
        split at read
        · obtain rfl := Except.ok.inj read
          rw [Checked.both_eq_ok, checkBegin_eq_ok, checkEnd_eq, Checked.atPath_eq_ok] at parts
          obtain ⟨⟨begin, given, begins⟩, ends⟩ := parts
          exact ⟨begin, given, begins, Value.isSpan_iff_toSpan?.mpr ⟨read?, ends, rfl⟩⟩
        · cases read
  · rintro ⟨begin, given, begins, ends⟩
    obtain ⟨read?, reads, limit⟩ := Value.isSpan_iff_toSpan?.mp ends
    have parts : Checked.both (checkBegin path begin?) (checkEnd path last?) =
        .ok (⟨bounds.begin, bounds.begin_nonneg⟩, read?) := by
      rw [Checked.both_eq_ok, checkBegin_eq_ok, checkEnd_eq, Checked.atPath_eq_ok]
      exact ⟨⟨begin, given, begins⟩, reads⟩
    rw [parts]
    dsimp only
    rw [dif_pos (limit ▸ bounds.begin_le_limit)]
    exact congrArg Except.ok (ext_parts rfl limit.symm)

theorem checkBegin_eq_underflow :
    checkBegin path begin? = .error .underflow ↔ ∃ begin, begin? = some begin ∧ begin.Underflows := by
  cases begin? with
  | none => simp [checkBegin, Checked.atPath_eq_underflow]
  | some begin =>
      simp [checkBegin, Checked.atPath_eq_underflow, Value.toSpan_eq_underflow, Value.Underflows]

theorem checkEnd_eq_underflow :
    checkEnd path last? = .error .underflow ↔ ∃ last, last? = some last ∧ last.Underflows := by
  cases last? with
  | none => simp [checkEnd, Checked.atPath_eq_underflow]
  | some last =>
      simp [checkEnd, Checked.atPath_eq_underflow, Value.toSpan?_eq_underflow, Value.Underflows]

theorem checkRange_eq_underflow :
    checkRange path begin? last? = .error .underflow ↔
      ∃ part, (begin? = some part ∨ last? = some part) ∧ part.Underflows := by
  have either : checkRange path begin? last? = .error .underflow ↔
      Checked.both (checkBegin path begin?) (checkEnd path last?) = .error .underflow := by
    rw [checkRange]
    split
    · next objection failed => simp [failed]
    · next read =>
        split <;> simp [read, Checked.refuse]
  rw [either, Checked.both_eq_underflow, checkBegin_eq_underflow, checkEnd_eq_underflow,
    ← exists_or]
  simp only [or_and_right]

/-- The complaints about a range are about the part that it is. -/
theorem isAbout_checkRange (part : String) (rest : List String) :
    Checked.IsAbout part (checkRange (part :: rest) begin? last?) := by
  have parts : Checked.IsAbout part
      (Checked.both (checkBegin (part :: rest) begin?) (checkEnd (part :: rest) last?)) :=
    .both (.atPath rfl _) (.atPath rfl _)
  rw [checkRange]
  split
  · next objection failed =>
      rw [failed] at parts
      exact parts.of_error
  · split
    · exact ⟨nofun, nofun⟩
    · exact .refuse rfl _

theorem isRange_of_gives {begin : Value} (gives : value.Gives (some begin) last?)
    (begins : begin.toDuration = .ok bounds.begin)
    (span : (last?.getD .null).IsSpan bounds.limit?) : value.IsRange (some bounds.ends) := by
  rw [ends]
  rcases Value.isSpan_iff.mp span with ⟨absent, open_⟩ | ⟨most, read, -, limit⟩
  · rw [open_]
    refine .openEnded gives ?_ begins bounds.begin_nonneg
    cases last? with
    | none => exact .inl rfl
    | some last => exact .inr (congrArg some absent)
  · rw [limit]
    cases last? with
    | none => cases read
    | some last =>
        exact .bounded gives begins read bounds.begin_nonneg (bounds.begin_le_limit most limit)

/-- A value is read as the optional interval whose range it stands for. -/
theorem ofValue_eq_ok : ofValue path value = .ok bounds? ↔ value.IsRange (bounds?.map ends) := by
  constructor
  · intro read
    cases writing path value with
    | absent =>
        cases read
        exact .absent
    | made bounds =>
        cases read
        exact .made bounds
    | range gives =>
        rw [ofValue_of_gives gives, map_eq_ok] at read
        obtain ⟨bounds, checked, rfl⟩ := read
        obtain ⟨begin, rfl, begins, span⟩ := checkRange_eq_ok.mp checked
        exact isRange_of_gives gives begins span
    | malformed _ _ refused => cases refused.symm.trans read
  · intro range
    generalize same : bounds?.map ends = range? at range
    cases range with
    | absent =>
        obtain rfl := Option.map_eq_none_iff.mp same
        rfl
    | made bounds =>
        obtain ⟨other, rfl, alike⟩ := Option.map_eq_some_iff.mp same
        obtain ⟨begins, limits⟩ := Prod.mk.inj alike
        exact congrArg (Except.ok ∘ some) (ext_parts begins limits).symm
    | openEnded gives unlimited begins nonneg =>
        obtain ⟨bounds, rfl, alike⟩ := Option.map_eq_some_iff.mp same
        obtain ⟨rfl, open_⟩ := Prod.mk.inj alike
        rw [ofValue_of_gives gives, map_eq_ok]
        refine ⟨bounds, checkRange_eq_ok.mpr ⟨_, rfl, begins, ?_⟩, rfl⟩
        rw [open_]
        rcases unlimited with rfl | rfl
        · exact .absent
        · exact .absent
    | bounded gives begins lasts nonneg ordered =>
        obtain ⟨bounds, rfl, alike⟩ := Option.map_eq_some_iff.mp same
        obtain ⟨rfl, limit⟩ := Prod.mk.inj alike
        rw [ofValue_of_gives gives, map_eq_ok]
        refine ⟨bounds, checkRange_eq_ok.mpr ⟨_, rfl, begins, ?_⟩, rfl⟩
        rw [limit]
        exact .given lasts (Int.le_trans nonneg ordered)

theorem ofValue_eq_underflow : ofValue path value = .error .underflow ↔ value.RangeUnderflows := by
  constructor
  · intro underflows
    cases writing path value with
    | absent => cases underflows
    | made bounds => cases underflows
    | @range _ begin? last? gives =>
        rw [ofValue_of_gives gives, map_eq_error, checkRange_eq_underflow] at underflows
        obtain ⟨part, given, below⟩ := underflows
        exact ⟨begin?, last?, part, gives, given, below⟩
    | malformed _ _ refused => cases refused.symm.trans underflows
  · rintro ⟨begin?, last?, part, gives, given, below⟩
    rw [ofValue_of_gives gives, map_eq_error, checkRange_eq_underflow]
    exact ⟨part, given, below⟩

/-- The complaints about an optional interval are about the part that it is. -/
theorem isAbout_ofValue (part : String) (rest : List String) (value : Value) :
    Checked.IsAbout part (ofValue (part :: rest) value) := by
  cases writing (part :: rest) value with
  | absent => exact ⟨nofun, nofun⟩
  | made bounds => exact ⟨nofun, nofun⟩
  | range written =>
      rw [ofValue_of_gives written]
      exact (isAbout_checkRange part rest).map some
  | malformed _ _ refused =>
      rw [refused]
      exact .refuse rfl _

end Interval

/-- A range that a value stands for is that of an interval. -/
theorem Value.IsRange.exists_interval {value : Value} {range? : Option (Duration × Option Duration)}
    (range : value.IsRange range?) : ∃ bounds? : Option Interval, range? = bounds?.map Interval.ends := by
  cases range with
  | absent => exact ⟨none, rfl⟩
  | made bounds => exact ⟨some bounds, rfl⟩
  | openEnded _ _ _ nonneg => exact ⟨some ⟨_, none, nonneg, nofun⟩, rfl⟩
  | bounded _ _ _ nonneg ordered =>
      exact ⟨some ⟨_, some _, nonneg, fun _ same => Option.some.inj same ▸ ordered⟩, rfl⟩

/-! ## Policies -/

namespace Settings

variable {interval leading idleTime : Value} {settings : Settings} {fault : Fault}

/-- The checks of the three parts of a policy. -/
def checkParts (interval leading idleTime : Value) :
    Checked (Option Interval × Bool × Option { span : Duration // Duration.zero ≤ span }) :=
  Checked.both (Interval.ofValue ["interval"] interval)
    (Checked.both (Checked.plainAtPath ["leading"] leading.toFlag)
      (Checked.atPath ["idle_time"] (idleTime.toSpan? .negativeIdleTime)))

theorem check_eq_error {objection : Objection (List Complaint)} :
    check interval leading idleTime = .error objection ↔
      checkParts interval leading idleTime = .error objection := by
  rw [check]
  split
  · next other failed =>
      have checked : checkParts interval leading idleTime = .error other := failed
      simp [checked]
  · next read =>
      have checked : checkParts interval leading idleTime = .ok _ := read
      simp [checked]

/-- A policy is built if and only if each of its parts can be read. -/
theorem build_eq_ok :
    build interval leading idleTime = .ok settings ↔
      Interval.ofValue ["interval"] interval = .ok settings.interval ∧
        leading.toFlag = .ok settings.leading ∧
        ∃ idle?, idleTime.toSpan? .negativeIdleTime = .ok idle? ∧
          settings.idleTime = idle?.map Subtype.val := by
  rw [build, mapError_eq_ok, check]
  constructor
  · intro checked
    split at checked
    · cases checked
    · next bounds edge idle? parts =>
        obtain rfl := Except.ok.inj checked
        simp only [Checked.both_eq_ok, Checked.atPath_eq_ok, Checked.plainAtPath_eq_ok] at parts
        obtain ⟨read, flag, idles⟩ := parts
        exact ⟨read, flag, idle?, idles, rfl⟩
  · rintro ⟨read, flag, idle?, idles, idleTime⟩
    rw [Checked.both_eq_ok.mpr ⟨read, Checked.both_eq_ok.mpr
      ⟨Checked.plainAtPath_eq_ok.mpr flag, Checked.atPath_eq_ok.mpr idles⟩⟩]
    exact congrArg Except.ok (ext_parts rfl rfl idleTime.symm)

/-- A policy is built if and only if its parts are what the three values stand for. -/
theorem build_eq_ok_iff :
    build interval leading idleTime = .ok settings ↔
      interval.IsRange (settings.interval.map Interval.ends) ∧
        leading.toFlag = .ok settings.leading ∧ idleTime.IsSpan settings.idleTime := by
  rw [build_eq_ok, Interval.ofValue_eq_ok, Value.isSpan_iff_toSpan?]

/-- Whatever is built fails with the objection of a check. -/
theorem build_eq_error :
    build interval leading idleTime = .error fault ↔
      ∃ objection, checkParts interval leading idleTime = .error objection ∧
        Fault.ofObjection .invalidPolicy objection = fault := by
  rw [build, mapError_eq_error]
  simp only [check_eq_error]

theorem checkParts_eq_underflow (leading : Value) :
    checkParts interval leading idleTime = .error .underflow ↔
      interval.RangeUnderflows ∨ idleTime.Underflows := by
  rw [checkParts, Checked.both_eq_underflow, Checked.both_eq_underflow,
    Interval.ofValue_eq_underflow, Checked.atPath_eq_underflow, Value.toSpan?_eq_underflow,
    or_iff_right (a := _ = _) Checked.plainAtPath_ne_underflow, Value.Underflows]

/-- The named part of a policy is not valid. -/
inductive IsInvalid (interval leading idleTime : Value) : String → Prop where
  | interval : (¬ ∃ range?, interval.IsRange range?) → IsInvalid interval leading idleTime "interval"
  | leading : (¬ ∃ edge, leading.toFlag = .ok edge) → IsInvalid interval leading idleTime "leading"
  | idleTime : (¬ ∃ span?, idleTime.IsSpan span?) → IsInvalid interval leading idleTime "idle_time"

/-! ### What the complaints are about -/

section Complaints

variable {part : String}

theorem mem_parts_interval (bounded : ¬ interval.RangeUnderflows) :
    part ∈ Complaint.parts (Interval.ofValue ["interval"] interval).complaints ↔
      part = "interval" ∧ ¬ ∃ range?, interval.IsRange range? := by
  rw [(Interval.isAbout_ofValue "interval" [] interval).mem_parts
    (mt Interval.ofValue_eq_underflow.mp bounded)]
  apply and_congr_right'
  apply not_congr
  constructor
  · rintro ⟨bounds?, read⟩
    exact ⟨_, Interval.ofValue_eq_ok.mp read⟩
  · rintro ⟨range?, range⟩
    obtain ⟨bounds?, rfl⟩ := range.exists_interval
    exact ⟨bounds?, Interval.ofValue_eq_ok.mpr range⟩

theorem mem_parts_leading :
    part ∈ Complaint.parts (Checked.plainAtPath ["leading"] leading.toFlag).complaints ↔
      part = "leading" ∧ ¬ ∃ edge, leading.toFlag = .ok edge := by
  rw [(Checked.IsAbout.plainAtPath rfl leading.toFlag).mem_parts Checked.plainAtPath_ne_underflow]
  simp only [Checked.plainAtPath_eq_ok]

theorem mem_parts_idleTime (bounded : ¬ idleTime.Underflows) :
    part ∈ Complaint.parts
        (Checked.atPath ["idle_time"] (idleTime.toSpan? .negativeIdleTime)).complaints ↔
      part = "idle_time" ∧ ¬ ∃ span?, idleTime.IsSpan span? := by
  rw [(Checked.IsAbout.atPath rfl (idleTime.toSpan? .negativeIdleTime)).mem_parts
    (mt (Checked.atPath_eq_underflow.trans Value.toSpan?_eq_underflow).mp bounded)]
  apply and_congr_right'
  apply not_congr
  constructor
  · rintro ⟨idle?, read⟩
    exact ⟨_, Value.isSpan_iff_toSpan?.mpr ⟨idle?, Checked.atPath_eq_ok.mp read, rfl⟩⟩
  · rintro ⟨span?, span⟩
    obtain ⟨idle?, read, -⟩ := Value.isSpan_iff_toSpan?.mp span
    exact ⟨idle?, Checked.atPath_eq_ok.mpr read⟩

/-- Unless there is an underflow, the complaints about a policy are about its invalid parts. -/
theorem mem_parts_checkParts (bounded : ¬ (interval.RangeUnderflows ∨ idleTime.Underflows)) :
    part ∈ Complaint.parts (checkParts interval leading idleTime).complaints ↔
      IsInvalid interval leading idleTime part := by
  have whole : checkParts interval leading idleTime ≠ .error .underflow :=
    mt (checkParts_eq_underflow leading).mp bounded
  obtain ⟨first, later⟩ := not_or.mp (mt Checked.both_eq_underflow.mpr whole)
  obtain ⟨second, third⟩ := not_or.mp (mt Checked.both_eq_underflow.mpr later)
  obtain ⟨rangeBounded, idleBounded⟩ := not_or.mp bounded
  rw [checkParts, Checked.complaints_both first later, Checked.complaints_both second third,
    Complaint.parts_append, Complaint.parts_append, List.mem_append, List.mem_append,
    mem_parts_interval rangeBounded, mem_parts_leading, mem_parts_idleTime idleBounded]
  constructor
  · rintro (⟨rfl, invalid⟩ | ⟨rfl, invalid⟩ | ⟨rfl, invalid⟩)
    · exact .interval invalid
    · exact .leading invalid
    · exact .idleTime invalid
  · rintro (invalid | invalid | invalid)
    · exact .inl ⟨rfl, invalid⟩
    · exact .inr (.inl ⟨rfl, invalid⟩)
    · exact .inr (.inr ⟨rfl, invalid⟩)

end Complaints

/-- No duration of the policy is negative, and its interval does not end before it begins. -/
structure IsOrdered (settings : Settings) : Prop where
  begin_nonneg : ∀ bounds, settings.interval = some bounds → Duration.zero ≤ bounds.begin
  begin_le_limit : ∀ bounds last, settings.interval = some bounds → bounds.limit? = some last →
    bounds.begin ≤ last
  idleTime_nonneg : ∀ idle, settings.idleTime = some idle → Duration.zero ≤ idle

theorem isOrdered (settings : Settings) : settings.IsOrdered where
  begin_nonneg bounds _ := bounds.begin_nonneg
  begin_le_limit bounds last _ := bounds.begin_le_limit last
  idleTime_nonneg := settings.idleTime_nonneg

theorem exists_build_eq_ok_iff :
    (∃ settings, build interval leading idleTime = .ok settings) ↔
      (∃ range?, interval.IsRange range?) ∧ (∃ edge, leading.toFlag = .ok edge) ∧
        ∃ span?, idleTime.IsSpan span? := by
  constructor
  · rintro ⟨settings, built⟩
    obtain ⟨range, edge, span⟩ := build_eq_ok_iff.mp built
    exact ⟨⟨_, range⟩, ⟨_, edge⟩, ⟨_, span⟩⟩
  · rintro ⟨⟨range?, range⟩, ⟨edge, flag⟩, ⟨span?, span⟩⟩
    obtain ⟨bounds?, rfl⟩ := range.exists_interval
    exact ⟨⟨bounds?, edge, span?, span.nonneg⟩, build_eq_ok_iff.mpr ⟨range, flag, span⟩⟩

theorem build_eq_underflow (leading : Value) :
    build interval leading idleTime = .error .durationUnderflow ↔
      interval.RangeUnderflows ∨ idleTime.Underflows := by
  rw [build_eq_error, ← checkParts_eq_underflow leading]
  constructor
  · rintro ⟨_ | _, failed, same⟩
    · cases same
    · exact failed
  · intro failed
    exact ⟨.underflow, failed, rfl⟩

/-- A policy that is built from three values is valid in all its parts, and holds what they stand
for: the edge is a flag, the idle time is absent or a duration that is not negative, and the interval
is absent, an interval, or a pair, a mapping or a single value whose begin is a duration that is not
negative and whose end is absent or a duration that is not less. So every debouncer that is made has
such a policy. If a part is not valid the policy is refused with complaints about the invalid parts,
unless one of its durations is below the least one. -/
theorem valid_policies_are_built {τ ω : Type} [Instant τ] (interval leading idleTime : Value) :
    ((∃ settings, build interval leading idleTime = .ok settings) ↔
      (∃ range?, interval.IsRange range?) ∧ (∃ edge, leading.toFlag = .ok edge) ∧
        ∃ span?, idleTime.IsSpan span?) ∧
    (∀ settings, build interval leading idleTime = .ok settings ↔
      interval.IsRange (settings.interval.map Interval.ends) ∧
        leading.toFlag = .ok settings.leading ∧ idleTime.IsSpan settings.idleTime) ∧
    (∀ (name : Value) (now : τ) (debouncer : Debouncer τ ω),
      Debouncer.create interval leading idleTime name now = .ok debouncer →
        build interval leading idleTime = .ok debouncer.settings ∧ debouncer.settings.IsOrdered) ∧
    (build interval leading idleTime = .error .durationUnderflow ↔
      interval.RangeUnderflows ∨ idleTime.Underflows) ∧
    ∀ fault, build interval leading idleTime = .error fault → fault ≠ .durationUnderflow →
      fault.name = "ConfigurationError" ∧ ∃ complaints, fault = .invalidPolicy complaints ∧
        ∀ part, part ∈ Complaint.parts complaints ↔ IsInvalid interval leading idleTime part := by
  refine ⟨exists_build_eq_ok_iff, fun _ => build_eq_ok_iff, ?_, build_eq_underflow leading, ?_⟩
  · intro name now debouncer made
    rw [Debouncer.create] at made
    split at made
    · next settings built =>
        cases made
        exact ⟨by simpa [Debouncer.new] using built, isOrdered _⟩
    · cases made
  · intro fault failed refused
    obtain ⟨objection, found, rfl⟩ := build_eq_error.mp failed
    cases objection with
    | underflow => exact absurd rfl refused
    | refused complaints =>
        refine ⟨rfl, complaints, rfl, fun part => ?_⟩
        have bounded : ¬ (interval.RangeUnderflows ∨ idleTime.Underflows) := by
          rw [← build_eq_underflow leading, failed]
          simp [Fault.ofObjection]
        rw [← mem_parts_checkParts bounded, found]
        rfl

/-- A negative interval need not be complained about: a number of seconds that is far enough below
zero fails otherwise. -/
theorem negative_interval_without_complaint :
    let range : Value := .int (-86399999999999)
    (¬ ∃ range?, range.IsRange range?) ∧
      ∃ fault, build range (.bool false) .null = .error fault ∧ fault.name ≠ "ConfigurationError" := by
  intro range
  have underflows : build range (.bool false) .null = .error .durationUnderflow := rfl
  refine ⟨?_, _, underflows, by decide⟩
  intro valid
  obtain ⟨settings, built⟩ := exists_build_eq_ok_iff.mpr
    ⟨valid, ⟨false, (rfl : (Value.bool false).toFlag = _)⟩, none, .absent⟩
  cases underflows.symm.trans built

end Settings

end Debounce
