import Mathlib.Data.List.Forall2
import TelemetryRelay.Proofs.Record.Calls
import TelemetryRelay.Proofs.Record.RoundTrip
import TelemetryRelay.Sampling.Publisher

namespace TelemetryRelay.Publisher

theorem performAll_append (now : Int64) (b : Builder) (calls later : List Builder.Call) :
    performAll now b (calls ++ later) =
      match performAll now b calls with
      | (.ok (), b) => performAll now b later
      | (.error e, b) => (.error e, b) := by
  induction calls generalizing b with
  | nil => rfl
  | cons call calls ih =>
    rw [List.cons_append, performAll, performAll]
    split
    next => exact ih _
    next => rfl

theorem performAll_roomy {b : Builder} (room : b.Roomy) (now : Int64) (calls : List Builder.Call) :
    (performAll now b calls).2.Roomy := by
  induction calls generalizing b with
  | nil => exact room
  | cons call calls ih =>
    have first := room.perform now call
    unfold performAll
    split
    next done =>
      rw [done] at first
      exact ih first
    next refused =>
      rw [refused] at first
      exact first

/-- Calls that are admitted are all accepted, unless the record becomes too large. -/
theorem performAll_answer (now : Int64) {b : Builder} {p : Point} {calls : List Builder.Call}
    (room : b.Roomy) (drafted : b.Drafted p) (begun : b.phase ≠ .blank)
    (admitted : b.phase.admits calls = true) :
    (performAll now b calls).1 =
        (if (Builder.noted now p calls).size ≤ Builder.maxSize then .ok ()
          else .error .bufferFull) ∧
      ((performAll now b calls).1 = .ok () →
        (performAll now b calls).2.Drafted (Builder.noted now p calls)) := by
  induction calls generalizing b p with
  | nil =>
    have within : p.size ≤ Builder.maxSize := drafted.size_eq ▸ room.size_le
    exact ⟨(if_pos within).symm, fun _ => drafted⟩
  | cons call calls ih =>
    obtain ⟨timely, proper, adds, rest⟩ := Builder.admits_cons.mp admitted
    have answer := drafted.perform_answer now room begun timely proper adds
    have untimed : b.phase.Untimed p := drafted.timestamp_eq_none
    obtain ⟨still, fresh⟩ := Builder.untimed_note now untimed timely adds
    have longer := Builder.size_le_noted now still rest
    unfold performAll
    split
    next b' done =>
      have phase := Builder.perform_next done
      have room' := room.perform now call
      rw [done] at room'
      have begun' : b'.phase ≠ .blank := phase ▸ call.next_ne_blank adds
      have drafted' : b'.Drafted (call.note now p) :=
        (Builder.perform_eq_ok (.inr drafted) done).resolve_left fun blank => begun' blank.1
      exact ih room' drafted' begun' (phase ▸ rest)
    next e b' refused =>
      rw [refused] at answer
      split at answer
      next => simp at answer
      next full =>
        have beyond : ¬ (Builder.noted now p (call :: calls)).size ≤ Builder.maxSize :=
          fun fits => full (Nat.le_trans longer fits)
        exact ⟨by rw [if_neg beyond]; exact answer, by simp⟩

/-- A record begins with its measurement, unless that alone is too large. -/
theorem performAll_setMeasurement {b : Builder} {name : String} (room : b.Roomy)
    (open_ : b.isSealed = false) (valid : Name.isMeasurement name = true) (now : Int64)
    (calls : List Builder.Call) :
    Builder.maxSize < name.utf8ByteSize ∧
        (performAll now b (.setMeasurement name :: calls)).1 = .error .bufferFull ∨
      ∃ b' : Builder, b'.Roomy ∧ b'.phase = .named ∧
        b'.Drafted { measurement := name, tags := [], fields := [], timestamp := none } ∧
        performAll now b (.setMeasurement name :: calls) = performAll now b' calls := by
  have answer := room.setMeasurement_answer open_ valid
  have room' := room.perform now (.setMeasurement name)
  rw [performAll, Builder.perform]
  rw [Builder.perform] at room'
  rcases begun : b.setMeasurement name with ⟨e | _, b'⟩
  · rw [begun] at answer
    split at answer
    next => simp at answer
    next full => exact .inl ⟨Nat.lt_of_not_le full, answer⟩
  · rw [begun] at room'
    exact .inr ⟨b', room', (Builder.setMeasurement_eq_ok begun).2.2,
      Builder.drafted_setMeasurement begun, rfl⟩

theorem performAll_next {b b' : Builder} {now : Int64} {calls : List Builder.Call}
    {call : Builder.Call} (done : performAll now b (calls ++ [call]) = (.ok (), b')) :
    b'.phase = call.next := by
  rw [performAll_append] at done
  split at done
  next b₁ _ =>
    unfold performAll at done
    split at done
    next b₂ last =>
      cases (Prod.mk.inj done).2
      exact Builder.perform_next last
    next => simp at done
  next => simp at done

/-- The field of a channel, if it is enabled and has a finite value. -/
def channelField (c : Channel) : Option (String × Float) :=
  if c.enabled then (c.value.filter Binary64.isFinite).map fun v => (c.id, v) else none

def channelFields (channels : List Channel) : List (String × Float) :=
  channels.filterMap channelField

theorem channelFields_eq (channels : List Channel) :
    channelFields channels = (channels.map channelField).filterMap id := by
  rw [List.filterMap_map]
  rfl

/-- The fields of the finite parts of a position. -/
def fixFields (fix : Option GpsFix) : List (String × Float) :=
  (fix.toList.flatMap positionFields).filter fun field => Binary64.isFinite field.2

def fieldCalls (fields : List (String × Float)) : List Builder.Call :=
  fields.map fun field => .addField field.1 (.double field.2)

theorem fieldCalls_append (fields more : List (String × Float)) :
    fieldCalls (fields ++ more) = fieldCalls fields ++ fieldCalls more :=
  List.map_append

/-- The point that a record with these fields says. -/
def point (p : Publisher) (now : Int64) (fields : List (String × Float)) : Point where
  measurement := p.measurement
  tags := [("source", p.sourceTag)]
  fields := fields.map fun field => (field.1, .double field.2)
  timestamp := if fields = [] then none else some now

theorem positionCalls_eq (fix : Option GpsFix) :
    positionCalls fix = fieldCalls (fixFields fix) := by
  cases fix with
  | none => rfl
  | some fix => simp [positionCalls, fieldCalls, fixFields]

theorem addChannels_eq {b : Builder} {channels : List Channel} (now : Int64)
    (open_ : b.phase = .named ∨ b.phase = .filled)
    (keys : ∀ c ∈ channels, Name.isKey c.id = true) :
    addChannels b channels = performAll now b (fieldCalls (channelFields channels)) := by
  induction channels generalizing b with
  | nil => rfl
  | cons c rest ih =>
    obtain ⟨key, others⟩ := List.forall_mem_cons.mp keys
    unfold addChannels
    split
    next v on known =>
      cases finite : Binary64.isFinite v with
      | true =>
        have writable : (FieldValue.double v).isWritable = true := finite
        have fields : channelFields (c :: rest) = (c.id, v) :: channelFields rest := by
          simp [channelFields, channelField, on, known, finite]
        rw [fields, fieldCalls, List.map_cons, performAll, Builder.perform]
        split
        next e b' refused =>
          cases Builder.addField_refused open_ key writable refused
          rw [refused]
          rfl
        next b' done =>
          rw [done]
          exact ih (.inr (Builder.addField_eq_ok done).2.2.2.2) others
      | false =>
        have unwritable : (FieldValue.double v).isWritable = false := finite
        have fields : channelFields (c :: rest) = channelFields rest := by
          simp [channelFields, channelField, known, finite]
        rw [fields, Builder.addField_unwritable open_ key unwritable]
        exact ih open_ others
    next valueless =>
      have fields : channelFields (c :: rest) = channelFields rest := by
        cases on : c.enabled with
        | false => simp [channelFields, channelField, on]
        | true =>
          have absent : c.value = none := Option.eq_none_iff_forall_ne_some.mpr (valueless · on)
          simp [channelFields, channelField, absent]
      rw [fields]
      exact ih open_ others

theorem write_eq (p : Publisher) {channels : List Channel} (now : Int64) (fix : Option GpsFix)
    (keys : ∀ c ∈ channels, Name.isKey c.id = true) :
    p.write now channels fix =
      performAll now p.builder
        ([.reset, .setMeasurement p.measurement, .addTag "source" p.sourceTag] ++
          fieldCalls (channelFields channels ++ fixFields fix) ++
          [.setTimestampNow, .finalize]) := by
  unfold write
  rw [List.append_assoc, performAll_append]
  split
  next e b refused => rw [refused]
  next b begun =>
    have phase : b.phase = .named := @performAll_next _ _ _ [.reset, .setMeasurement _] _ begun
    rw [begun, addChannels_eq now (.inl phase) keys, positionCalls_eq, fieldCalls_append,
      List.append_assoc]
    dsimp only
    rw [performAll_append now b (fieldCalls (channelFields channels))]
    rcases performAll now b (fieldCalls (channelFields channels)) with ⟨_ | _, b'⟩ <;> rfl

theorem channelFields_valid {channels : List Channel}
    (keys : ∀ c ∈ channels, Name.isKey c.id = true) {field : String × Float}
    (mem : field ∈ channelFields channels) :
    Name.isKey field.1 = true ∧ Binary64.isFinite field.2 = true := by
  obtain ⟨c, inside, found⟩ := List.mem_filterMap.mp mem
  unfold channelField at found
  split at found
  next =>
    obtain ⟨v, kept, rfl⟩ := Option.map_eq_some_iff.mp found
    exact ⟨keys c inside, (Option.filter_eq_some_iff.mp kept).2⟩
  next => contradiction

theorem fixFields_valid {fix : Option GpsFix} {field : String × Float}
    (mem : field ∈ fixFields fix) :
    Name.isKey field.1 = true ∧ Binary64.isFinite field.2 = true := by
  obtain ⟨inside, finite⟩ := List.mem_filter.mp mem
  obtain ⟨fix, _, part⟩ := List.mem_flatMap.mp inside
  have keys : ∀ key ∈ ["latitude", "longitude", "altitude", "speed"], Name.isKey key = true := by
    decide
  exact ⟨keys field.1 (List.mem_map_of_mem part), finite⟩

/-- The fields as they stand in a point. -/
def doubles (fields : List (String × Float)) : List (String × FieldValue) :=
  fields.map fun field => (field.1, .double field.2)

theorem fieldCalls_eq (fields : List (String × Float)) :
    fieldCalls fields = Builder.fieldCalls (doubles fields) := by
  rw [fieldCalls, Builder.fieldCalls, doubles, List.map_map]
  rfl

theorem doubles_valid {fields : List (String × Float)}
    (valid : ∀ field ∈ fields, Name.isKey field.1 = true ∧ Binary64.isFinite field.2 = true) :
    ∀ field ∈ doubles fields, Name.isKey field.1 = true ∧ field.2.isWritable = true := by
  intro field mem
  obtain ⟨plain, inside, rfl⟩ := List.mem_map.mp mem
  exact valid plain inside

theorem admits_fieldCalls {phase : Builder.Phase} {fields : List (String × Float)}
    {later : List Builder.Call} (open_ : phase = .named ∨ phase = .filled)
    (valid : ∀ field ∈ fields, Name.isKey field.1 = true ∧ Binary64.isFinite field.2 = true) :
    phase.admits (fieldCalls fields ++ later) =
      (if fields = [] then phase else .filled).admits later := by
  rw [fieldCalls_eq, Builder.admits_fieldCalls open_ (doubles_valid valid)]
  simp only [doubles, List.map_eq_nil_iff]

theorem noted_fieldCalls (now : Int64) (p : Point) (fields : List (String × Float)) :
    Builder.noted now p (fieldCalls fields) =
      { p with fields := p.fields ++ fields.map fun field => (field.1, .double field.2) } := by
  rw [fieldCalls_eq, Builder.noted_fieldCalls, doubles]

/-- The calls that write a record after its measurement; without a field it gets no time. -/
def partCalls (p : Publisher) (fields : List (String × Float)) : List Builder.Call :=
  .addTag "source" p.sourceTag :: fieldCalls fields ++
    if fields = [] then [] else [.setTimestampNow, .finalize]

theorem admits_partCalls (p : Publisher) {fields : List (String × Float)}
    (valid : ∀ field ∈ fields, Name.isKey field.1 = true ∧ Binary64.isFinite field.2 = true) :
    Builder.Phase.named.admits (p.partCalls fields) = true := by
  have rest : Builder.Phase.named.admits (fieldCalls fields ++
      if fields = [] then [] else [.setTimestampNow, .finalize]) = true := by
    rw [admits_fieldCalls (.inl rfl) valid]
    split <;> rfl
  exact Builder.admits_cons.mpr ⟨rfl, rfl, rfl, rest⟩

/-- The point of a record of which only the measurement has been written. -/
def heading (p : Publisher) : Point :=
  { measurement := p.measurement, tags := [], fields := [], timestamp := none }

theorem noted_partCalls (p : Publisher) (now : Int64) (fields : List (String × Float)) :
    Builder.noted now p.heading (p.partCalls fields) = p.point now fields := by
  have parts := noted_fieldCalls now { p.heading with tags := [("source", p.sourceTag)] } fields
  rw [Builder.noted] at parts
  rw [partCalls, Builder.noted, List.cons_append, List.foldl_cons, List.foldl_append]
  refine (congrArg (List.foldl _ · _) parts).trans ?_
  by_cases empty : fields = [] <;> simp [empty, heading, point, Builder.Call.note]

/-- What writing the parts of a record after its measurement comes to. -/
theorem parts_answer {p : Publisher} {b : Builder} {fields : List (String × Float)}
    (room : b.Roomy) (drafted : b.Drafted p.heading) (phase : b.phase = .named) (now : Int64)
    (valid : ∀ field ∈ fields, Name.isKey field.1 = true ∧ Binary64.isFinite field.2 = true) :
    let parts := .addTag "source" p.sourceTag :: fieldCalls fields ++ [.setTimestampNow, .finalize]
    (performAll now b parts).1 =
        (if Builder.maxSize < (p.point now fields).size then .error .bufferFull
          else if fields = [] then .error .invalidState else .ok ()) ∧
      ((performAll now b parts).1 = .ok () →
        (performAll now b parts).2.Drafted (p.point now fields)) := by
  intro parts
  have admitted : b.phase.admits (p.partCalls fields) = true := phase ▸ p.admits_partCalls valid
  obtain ⟨answer, written⟩ :=
    performAll_answer now room drafted (by simp [phase]) admitted
  rw [noted_partCalls] at answer written
  by_cases empty : fields = []
  · have calls : parts = p.partCalls fields ++ [.setTimestampNow, .finalize] := by
      simp [parts, partCalls, empty, fieldCalls]
    rw [calls, performAll_append]
    rcases named : performAll now b (p.partCalls fields) with ⟨e | _, b'⟩
    · rw [named] at answer
      split at answer
      next => simp at answer
      next full =>
        rw [if_pos (Nat.lt_of_not_le full)]
        exact ⟨answer, by simp⟩
    · have phase' : b'.phase = .named := @performAll_next _ _ _ [] _ (by
        simpa [partCalls, empty, fieldCalls] using named)
      have stop : performAll now b' [.setTimestampNow, .finalize] = (.error .invalidState, b') := by
        rw [performAll, Builder.perform, Builder.setTimestamp, if_pos (by simp [phase'])]
      rw [named] at answer
      split at answer
      next fits =>
        rw [if_neg (Nat.not_lt.mpr fits), if_pos empty]
        exact ⟨congrArg Prod.fst stop, by simp [stop]⟩
      next => simp at answer
  · have calls : parts = p.partCalls fields := by simp [parts, partCalls, empty]
    rw [calls]
    refine ⟨?_, written⟩
    rw [answer, if_neg empty]
    simp only [← Nat.not_lt, ite_not]

/-- What writing a record comes to. -/
theorem write_answer {p : Publisher} {channels : List Channel} (room : p.builder.Roomy)
    (named : Name.isMeasurement p.measurement = true)
    (keys : ∀ c ∈ channels, Name.isKey c.id = true) (now : Int64) (fix : Option GpsFix) :
    let fields := channelFields channels ++ fixFields fix
    (p.write now channels fix).1 =
        (if Builder.maxSize < (p.point now fields).size then .error .bufferFull
          else if fields = [] then .error .invalidState else .ok ()) ∧
      ((p.write now channels fix).1 = .ok () →
        (p.write now channels fix).2.Drafted (p.point now fields)) := by
  intro fields
  have valid : ∀ field ∈ fields, Name.isKey field.1 = true ∧ Binary64.isFinite field.2 = true :=
    List.forall_mem_append.mpr ⟨fun _ => channelFields_valid keys, fun _ => fixFields_valid⟩
  have write : p.write now channels fix = performAll now p.builder.reset
      (.setMeasurement p.measurement ::
        (.addTag "source" p.sourceTag :: fieldCalls fields ++ [.setTimestampNow, .finalize])) :=
    write_eq p now fix keys
  rw [write]
  obtain ⟨full, refused⟩ | ⟨b, room', phase, drafted, rest⟩ :=
    performAll_setMeasurement room.reset rfl named now
      (.addTag "source" p.sourceTag :: fieldCalls fields ++ [.setTimestampNow, .finalize])
  · have longer := (p.point now fields).size_measurement_le
    rw [if_pos (Nat.lt_of_lt_of_le full longer)]
    exact ⟨refused, fun done => nomatch refused.symm.trans done⟩
  · rw [rest]
    exact parts_answer room' drafted phase now valid

theorem write_roomy {p : Publisher} {channels : List Channel} (room : p.builder.Roomy) (now : Int64)
    (fix : Option GpsFix) (keys : ∀ c ∈ channels, Name.isKey c.id = true) :
    (p.write now channels fix).2.Roomy := by
  rw [write_eq p now fix keys]
  exact performAll_roomy room now _

theorem build_publisher (p : Publisher) (now : Int64) (channels : List Channel)
    (fix : Option GpsFix) :
    (p.build now channels fix).2 = { p with builder := (p.write now channels fix).2 } := by
  unfold build
  split
  next eq => rw [eq]
  next eq => rw [eq]

theorem build_fst (p : Publisher) (now : Int64) (channels : List Channel) (fix : Option GpsFix) :
    (p.build now channels fix).1 =
      (p.write now channels fix).1.map fun _ => ⟨(p.write now channels fix).2.text⟩ := by
  unfold build
  split
  next eq => rw [eq, Except.map]
  next eq => rw [eq, Except.map]

section
variable {p : Publisher} {channels : List Channel} (room : p.builder.Roomy)
  (named : Name.isMeasurement p.measurement = true)
  (keys : ∀ c ∈ channels, Name.isKey c.id = true)
include room named keys

/-- A publisher makes the record of the fields that there are. It fails only if there is none, or if
the record would be too large. -/
theorem build_answer (now : Int64) (fix : Option GpsFix) :
    let fields := channelFields channels ++ fixFields fix
    (p.build now channels fix).1 =
      if Builder.maxSize < (p.point now fields).size then .error .bufferFull
      else if fields = [] then .error .invalidState
      else .ok ⟨String.ofList (p.point now fields).rendered⟩ := by
  intro fields
  obtain ⟨answer, written⟩ := write_answer room named keys now fix
  rw [build_fst]
  split
  next full => rw [answer, if_pos full, Except.map]
  next fits =>
    split
    next empty => rw [answer, if_neg fits, if_pos empty, Except.map]
    next filled =>
      rw [if_neg fits, if_neg filled] at answer
      rw [answer, ← (written answer).text, String.ofList_toList, Except.map]

/-- A record is read as the fields of which it was made, each with the value of its six places. -/
theorem read_of_build (tag : Name.isKey p.sourceTag = true) {now : Int64} {fix : Option GpsFix}
    {record : Record} (built : (p.build now channels fix).1 = .ok record) :
    ∃ values,
      List.Forall₂ (fun field value => field.1 = value.1 ∧
          (FieldValue.double field.2).ReadsBack value.2)
        (channelFields channels ++ fixFields fix) values ∧
      Point.read record.text = .ok
        { measurement := p.measurement, tags := [("source", p.sourceTag)], fields := values,
          timestamp := some now } := by
  obtain ⟨answer, written⟩ := write_answer room named keys now fix
  rw [build_fst] at built
  obtain ⟨⟨⟩, done, rfl⟩ := map_eq_ok_iff.mp built
  have drafted := written done
  have some_ : channelFields channels ++ fixFields fix ≠ [] := fun empty => by
    rw [answer, if_pos empty] at done
    split at done <;> contradiction
  have filled : (p.write now channels fix).2.hasFields = true := by
    rw [← Bool.not_eq_false, ← drafted.unfilled]
    simpa [point] using some_
  have unbroken : ∀ tag ∈ [("source", p.sourceTag)], Point.Unbroken tag.2.toList := by
    simpa using Point.key_unbroken tag
  obtain ⟨values, same, line⟩ := drafted.lineText filled (by rw [point, if_neg some_]) unbroken
  refine ⟨values, ?_, ?_⟩
  · exact List.forall₂_map_left_iff.mp same
  · have read := Point.read_of_text line
    rwa [point, if_neg some_] at read

end
end TelemetryRelay.Publisher
