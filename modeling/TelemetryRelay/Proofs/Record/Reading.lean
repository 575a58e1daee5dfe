import Mathlib.Data.List.Basic
import TelemetryRelay.Proofs.Outcomes
import TelemetryRelay.Proofs.Record.Grammar
import TelemetryRelay.Proofs.Text.Splitting

namespace TelemetryRelay.Point
open Text

theorem readFinite?_end {cs : List Char} {v : Float} (h : Decimal.readFinite? cs = some v) :
    Decimal.EndsInFigure cs := by
  obtain ⟨n, hn, _⟩ := Option.bind_eq_some_iff.mp h
  exact Decimal.readNumeral?_end hn

theorem readBare_of_text {cs : List Char} {v : FieldValue} (h : BareText cs v) :
    readBare cs = .ok v := by
  cases h with
  | yes => simp [readBare]
  | no => simp [readBare]
  | @integer cs n text =>
    have word : ∀ w : List Char, w.getLast? ≠ some 'i' → cs ++ ['i'] ≠ w := by
      rintro w other rfl
      simp at other
    rw [readBare, if_neg (word _ (by decide)), if_neg (word _ (by decide)), if_pos (by simp),
      List.dropLast_concat, Decimal.readInt64?_eq_some_iff.mpr text]
  | @double cs v text =>
    -- A numeral ends in a digit or in its point, and neither a word nor an integer does.
    obtain ⟨c, last, figure⟩ := readFinite?_end text
    have word : ∀ (w : List Char) (d : Char), w.getLast? = some d →
        (d.isDigit = false ∧ d ≠ '.') → cs ≠ w := by
      rintro w d hd other rfl
      cases Option.some.inj (hd.symm.trans last)
      simp [other] at figure
    rw [readBare, if_neg (word _ 'e' (by decide) (by decide)),
      if_neg (word _ 'e' (by decide) (by decide)),
      if_neg fun last => word cs 'i' last (by decide) rfl, text]

theorem text_of_readBare {cs : List Char} {v : FieldValue} (h : readBare cs = .ok v) :
    BareText cs v := by
  unfold readBare at h
  split at h
  next eq => cases h; exact eq ▸ .yes
  next =>
    split at h
    next eq => cases h; exact eq ▸ .no
    next =>
      split at h
      next last =>
        split at h
        next n read =>
          cases h
          have text := BareText.integer (Decimal.readInt64?_eq_some_iff.mp read)
          rwa [List.dropLast_append_getLast? 'i' last] at text
        next => contradiction
      next =>
        split at h
        next v' read => cases h; exact .double read
        next => contradiction

/-- Whether a text can follow a value: it is empty, or begins with a comma or a space. -/
def Stops (cs : List Char) : Prop :=
  ∀ c, cs.head? = some c → endsBare c = true

theorem readValue_of_text {cs rest : List Char} {v : FieldValue} (h : ValueText cs v)
    (stops : Stops rest) : readValue (cs ++ rest) = .ok (v, rest) := by
  cases h with
  | @quoted inside text hi =>
    have split : Quoted.splitAtQuote (inside ++ '"' :: rest) = some (inside, rest) :=
      Quoted.splitAtQuote_eq_some_iff.mpr ⟨⟨text, hi⟩, rfl⟩
    rw [List.append_assoc, List.cons_append, List.singleton_append]
    simp [readValue, split, Quoted.unescape_inside hi]
  | bare text unbroken unquoted =>
    have first : ∀ tail, cs ++ rest ≠ '"' :: tail := by
      intro tail eq
      cases cs with
      | nil =>
        have quote := stops '"' (by simpa using congrArg List.head? eq)
        contradiction
      | cons c cs => simp_all
    have pass : ∀ c ∈ cs, (!endsBare c) = true := fun c hc => by simp [unbroken c hc]
    have halt : ∀ c, rest.head? = some c → (!endsBare c) = false := fun c hc => by
      simp [stops c hc]
    rw [readValue.eq_def]
    split
    next tail eq => exact absurd eq (first tail)
    next =>
      rw [span_append pass halt]
      simp only [readBare_of_text text]
      rfl

theorem text_of_readValue {cs rest : List Char} {v : FieldValue}
    (h : readValue cs = .ok (v, rest)) : ∃ raw, ValueText raw v ∧ cs = raw ++ rest := by
  rw [readValue.eq_def] at h
  split at h
  next tail =>
    split at h
    next => contradiction
    next inside rest' split =>
      cases h
      obtain ⟨⟨text, hi⟩, rfl⟩ := Quoted.splitAtQuote_eq_some_iff.mp split
      rw [Quoted.unescape_inside hi]
      exact ⟨'"' :: inside ++ ['"'], .quoted hi, by simp⟩
  next unquoted =>
    split at h
    next bare rest' parts =>
      obtain ⟨v', read, eq⟩ := map_eq_ok_iff.mp h
      cases eq
      obtain ⟨rfl, pass, _⟩ := parts_of_span parts
      refine ⟨bare, .bare (text_of_readBare read) (fun c hc => by simpa using pass c hc) ?_, rfl⟩
      intro first
      obtain ⟨tail, rfl⟩ := List.head?_eq_some_iff.mp first
      exact unquoted _ rfl

theorem not_mem_of_all {p : Char → Bool} {cs : List Char} {c : Char} (h : cs.all p = true)
    (other : p c = false) : c ∉ cs := by
  intro mem
  have kept := List.all_eq_true.mp h c mem
  rw [other] at kept
  contradiction

theorem not_mem_key {key : String} {c : Char} (h : Name.isKey key = true)
    (other : Name.isKeyChar c = false) : c ∉ key.toList := by
  simp only [Name.isKey, Bool.and_eq_true] at h
  exact not_mem_of_all h.2 other

theorem not_mem_measurement {name : String} {c : Char} (h : Name.isMeasurement name = true)
    (other : Name.isMeasurementChar c = false) : c ∉ name.toList := by
  simp only [Name.isMeasurement, Bool.and_eq_true] at h
  exact not_mem_of_all h.2 other

theorem key_unbroken {key : String} (h : Name.isKey key = true) : Unbroken key.toList := by
  intro c mem
  simp only [endsBare, Bool.or_eq_false_iff, beq_eq_false_iff_ne]
  constructor <;> rintro rfl
  · exact not_mem_key h (by decide) mem
  · exact not_mem_key h (by decide) mem

theorem readField_of_text {cs rest : List Char} {field : String × FieldValue}
    (h : FieldText cs field) (stops : Stops rest) : readField (cs ++ rest) = .ok (field, rest) := by
  cases h with
  | @pair key raw v name value =>
    have split := splitFirst_append (not_mem_key name (c := '=') (by decide)) (raw ++ rest)
    rw [List.append_assoc, List.cons_append, readField, split]
    simp only [String.ofList_toList, name, if_true, readValue_of_text value stops]
    rfl

theorem text_of_readField {cs rest : List Char} {field : String × FieldValue}
    (h : readField cs = .ok (field, rest)) : ∃ raw, FieldText raw field ∧ cs = raw ++ rest := by
  unfold readField at h
  split at h
  next => contradiction
  next key tail split =>
    obtain ⟨_, rfl⟩ := splitFirst_eq_some_iff.mp split
    split at h
    next name =>
      obtain ⟨⟨v, rest'⟩, read, eq⟩ := map_eq_ok_iff.mp h
      cases eq
      obtain ⟨raw, value, rfl⟩ := text_of_readValue read
      have text := FieldText.pair name value
      rw [String.toList_ofList] at text
      exact ⟨_, text, by simp⟩
    next => contradiction

/-- What follows the fields: nothing, or a space and the text of a time. -/
def ending : Option (List Char) → List Char
  | none => []
  | some cs => ' ' :: cs

theorem readFieldsOnto_of_text {cs : List Char} {fields : List (String × FieldValue)}
    (h : FieldsText cs fields) (last : Option (List Char)) (done : List (String × FieldValue))
    {fuel : Nat} (enough : cs.length < fuel) :
    readFieldsOnto done fuel (cs ++ ending last) = .ok (done.reverse ++ fields, last) := by
  -- A field that is followed by another one takes a comma too, so the fuel lasts for the rest.
  induction h generalizing done fuel with
  | @one cs field text =>
    obtain ⟨fuel, rfl⟩ : ∃ k, fuel = k + 1 := ⟨fuel - 1, by omega⟩
    have stops : Stops (ending last) := by
      cases last with
      | none => simp [Stops, ending]
      | some time => simp [Stops, ending, endsBare]
    rw [readFieldsOnto, readField_of_text text stops]
    cases last with
    | none => simp [ending]
    | some time => simp [ending]
  | @more cs rest field fields first others ih =>
    obtain ⟨fuel, rfl⟩ : ∃ k, fuel = k + 1 := ⟨fuel - 1, by omega⟩
    have stops : Stops (',' :: (rest ++ ending last)) := by simp [Stops, endsBare]
    have fewer : rest.length < fuel := by
      simp only [List.length_append, List.length_cons] at enough
      omega
    rw [List.append_assoc, List.cons_append, readFieldsOnto, readField_of_text first stops]
    simp [ih (field :: done) fewer]

theorem text_of_readFieldsOnto {done fields : List (String × FieldValue)} {fuel : Nat}
    {cs : List Char} {last : Option (List Char)}
    (h : readFieldsOnto done fuel cs = .ok (fields, last)) :
    ∃ body found, FieldsText body found ∧ fields = done.reverse ++ found ∧
      cs = body ++ ending last := by
  induction fuel generalizing done cs with
  | zero => simp [readFieldsOnto] at h
  | succ fuel ih =>
    rw [readFieldsOnto] at h
    split at h
    next => contradiction
    next field read =>
      cases h
      obtain ⟨raw, text, rfl⟩ := text_of_readField read
      exact ⟨raw, [field], .one text, by simp, rfl⟩
    next field c rest read =>
      obtain ⟨raw, text, rfl⟩ := text_of_readField read
      split at h
      next comma =>
        obtain rfl : c = ',' := by simpa using comma
        obtain ⟨body, found, texts, rfl, rfl⟩ := ih h
        exact ⟨_, field :: found, .more text texts, by simp, by simp⟩
      next =>
        split at h
        next space =>
          obtain rfl : c = ' ' := by simpa using space
          cases h
          exact ⟨raw, [field], .one text, by simp, rfl⟩
        next => contradiction

theorem readFields_eq_ok_iff {cs : List Char} {fields : List (String × FieldValue)}
    {last : Option (List Char)} :
    readFields cs = .ok (fields, last) ↔
      ∃ body, FieldsText body fields ∧ cs = body ++ ending last := by
  constructor
  · intro h
    obtain ⟨body, found, texts, eq, rfl⟩ := text_of_readFieldsOnto h
    rw [List.reverse_nil, List.nil_append] at eq
    exact ⟨body, eq ▸ texts, rfl⟩
  · rintro ⟨body, texts, rfl⟩
    exact readFieldsOnto_of_text texts last [] (by simp only [List.length_append]; omega)

theorem readTag_eq_ok_iff {cs : List Char} {tag : String × String} :
    readTag cs = .ok tag ↔ Name.isKey tag.1 = true ∧ cs = tagText tag := by
  constructor
  · intro h
    unfold readTag at h
    split at h
    next => contradiction
    next key value split =>
      obtain ⟨_, rfl⟩ := splitFirst_eq_some_iff.mp split
      split at h
      next name =>
        cases h
        exact ⟨name, by simp [tagText]⟩
      next => contradiction
  · rintro ⟨name, rfl⟩
    rw [readTag, tagText, splitFirst_append (not_mem_key name (by decide))]
    simp [name]

theorem mapM_readTag_eq_ok_iff {parts : List (List Char)} {tags : List (String × String)} :
    parts.mapM readTag = .ok tags ↔
      parts = tags.map tagText ∧ ∀ tag ∈ tags, Name.isKey tag.1 = true := by
  induction parts generalizing tags with
  | nil => cases tags <;> simp [pure, Except.pure]
  | cons part parts ih =>
    simp only [List.mapM_cons, bind_eq_ok_iff, readTag_eq_ok_iff, ih]
    constructor
    · rintro ⟨tag, ⟨name, rfl⟩, rest, ⟨rfl, names⟩, eq⟩
      cases eq
      exact ⟨rfl, List.forall_mem_cons.mpr ⟨name, names⟩⟩
    · rintro ⟨eq, names⟩
      cases tags with
      | nil => simp at eq
      | cons tag tags =>
        obtain ⟨rfl, rfl⟩ := List.cons.inj eq
        exact ⟨tag, ⟨names tag (by simp), rfl⟩, tags,
          ⟨rfl, fun t ht => names t (by simp [ht])⟩, rfl⟩

theorem not_mem_tagText {tag : String × String} {c : Char} (h : IsTag tag)
    (ends : endsBare c = true) : c ∉ tagText tag := by
  intro mem
  rcases List.mem_append.mp mem with mem | mem
  · have other : Name.isKeyChar c = false := by
      rcases (by simpa [endsBare] using ends : c = ',' ∨ c = ' ') with rfl | rfl <;> decide
    exact not_mem_key h.key other mem
  · rcases List.mem_cons.mp mem with rfl | mem
    · contradiction
    · rw [h.value c mem] at ends
      contradiction

theorem space_not_mem_head {cs : List Char} {name : String} {tags : List (String × String)}
    (h : HeadText cs name tags) : ' ' ∉ cs := by
  cases h with
  | named measurement tagged =>
    intro mem
    rcases List.mem_append.mp mem with mem | mem
    · exact not_mem_measurement measurement (by decide) mem
    · obtain ⟨tag, ht, mem⟩ := List.mem_flatMap.mp mem
      rcases List.mem_cons.mp mem with eq | mem
      · contradiction
      · exact not_mem_tagText (tagged tag ht) rfl mem

theorem readHead_of_text {cs : List Char} {name : String} {tags : List (String × String)}
    (h : HeadText cs name tags) : readHead cs = .ok (name, tags) := by
  cases h with
  | named measurement tagged =>
    have free : ∀ part ∈ tags.map tagText, ',' ∉ part := by
      intro part hp
      obtain ⟨tag, ht, rfl⟩ := List.mem_map.mp hp
      exact not_mem_tagText (tagged tag ht) rfl
    have split := splitOn_flatMap (not_mem_measurement measurement (c := ',') (by decide)) free
    rw [List.flatMap_map] at split
    have read := mapM_readTag_eq_ok_iff.mpr ⟨rfl, fun tag ht => (tagged tag ht).key⟩
    rw [readHead, split]
    simp only [String.ofList_toList, measurement, if_true, read]
    rfl

theorem text_of_readHead {cs : List Char} {name : String} {tags : List (String × String)}
    (h : readHead cs = .ok (name, tags)) (space : ' ' ∉ cs) : HeadText cs name tags := by
  unfold readHead at h
  split at h
  next => contradiction
  next first parts split =>
    split at h
    next measurement =>
      obtain ⟨tags', read, eq⟩ := map_eq_ok_iff.mp h
      cases eq
      obtain ⟨rfl, keys⟩ := mapM_readTag_eq_ok_iff.mp read
      have joined := flatMap_of_splitOn split
      rw [List.flatMap_map] at joined
      have tagged : ∀ tag ∈ tags, IsTag tag := by
        intro tag ht
        refine ⟨keys tag ht, fun c hc => ?_⟩
        have inside : c ∈ tagText tag := by simp [tagText, hc]
        have comma : c ≠ ',' := by
          rintro rfl
          exact not_mem_of_mem_splitOn
            (split ▸ List.mem_cons_of_mem _ (List.mem_map_of_mem ht)) inside
        have gap : c ≠ ' ' := by
          rintro rfl
          apply space
          rw [joined]
          refine List.mem_append_right _ (List.mem_flatMap.mpr ⟨tag, ht, ?_⟩)
          simp [inside]
        simp [endsBare, comma, gap]
      have text := HeadText.named measurement tagged
      rwa [String.toList_ofList, ← joined] at text
    next => contradiction

theorem not_blank_of_integerText {cs : List Char} {n : Int} (h : Decimal.IntegerText cs n) :
    ∀ c ∈ cs, isBlank c = false := by
  intro c hc
  rcases h.mem hc with digit | rfl | rfl
  · have bounds : 48 ≤ c.toNat ∧ c.toNat ≤ 57 := Char.isDigit_iff_toNat.mp digit
    simp [isBlank]
    omega
  · decide
  · decide

theorem readTimestamp_eq_ok_iff {cs : List Char} {time : Int64} :
    readTimestamp cs = .ok time ↔ TimeText cs time := by
  constructor
  · intro h
    unfold readTimestamp at h
    split at h
    next t read =>
      cases h
      obtain ⟨front, back, before, after, eq⟩ := trim_eq cs
      rw [eq]
      exact .spaced before (Decimal.readInt64?_eq_some_iff.mp read) after
    next => contradiction
  · intro h
    cases h with
    | spaced before text after =>
      rw [readTimestamp, trim_append before (not_blank_of_integerText text) after,
        Decimal.readInt64?_eq_some_iff.mpr text]

theorem endText_none_iff {time : Option Int64} : EndText (ending none) time ↔ time = none := by
  constructor
  · intro h
    cases h
    rfl
  · rintro rfl
    exact .untimed

theorem endText_some_iff {cs : List Char} {time : Option Int64} :
    EndText (ending (some cs)) time ↔ ∃ t, readTimestamp cs = .ok t ∧ time = some t := by
  constructor
  · intro h
    cases h with
    | timed text => exact ⟨_, readTimestamp_eq_ok_iff.mpr text, rfl⟩
  · rintro ⟨t, read, rfl⟩
    exact .timed (readTimestamp_eq_ok_iff.mp read)

theorem eq_ending {cs : List Char} {time : Option Int64} (h : EndText cs time) :
    ∃ last, cs = ending last := by
  cases h with
  | untimed => exact ⟨none, rfl⟩
  | timed _ => exact ⟨some _, rfl⟩

/-- A line is read by reading its parts. -/
theorem read_eq_ok_iff {line : String} {p : Point} :
    read line = .ok p ↔ ∃ head rest last, splitFirst ' ' line.toList = some (head, rest) ∧
      readHead head = .ok (p.measurement, p.tags) ∧ readFields rest = .ok (p.fields, last) ∧
      EndText (ending last) p.timestamp := by
  constructor
  · intro h
    unfold read at h
    split at h
    next => contradiction
    next head rest split =>
      obtain ⟨⟨measurement, tags⟩, named, h⟩ := bind_eq_ok_iff.mp h
      obtain ⟨⟨fields, last⟩, filled, h⟩ := bind_eq_ok_iff.mp h
      cases last with
      | none =>
        cases h
        exact ⟨head, rest, none, split, named, filled, .untimed⟩
      | some cs =>
        obtain ⟨t, stamped, h⟩ := bind_eq_ok_iff.mp h
        cases h
        exact ⟨head, rest, some cs, split, named, filled, endText_some_iff.mpr ⟨t, stamped, rfl⟩⟩
  · rintro ⟨head, rest, last, split, named, filled, ended⟩
    obtain ⟨measurement, tags, fields, time⟩ := p
    rw [read, split]
    refine bind_eq_ok_iff.mpr ⟨_, named, bind_eq_ok_iff.mpr ⟨_, filled, ?_⟩⟩
    cases last with
    | none =>
      cases endText_none_iff.mp ended
      rfl
    | some cs =>
      obtain ⟨t, stamped, eq⟩ := endText_some_iff.mp ended
      cases eq
      exact bind_eq_ok_iff.mpr ⟨t, stamped, rfl⟩

theorem text_of_read {line : String} {p : Point} (h : read line = .ok p) :
    LineText line.toList p := by
  obtain ⟨head, rest, last, split, named, filled, ended⟩ := read_eq_ok_iff.mp h
  obtain ⟨space, eq⟩ := splitFirst_eq_some_iff.mp split
  obtain ⟨body, texts, rfl⟩ := readFields_eq_ok_iff.mp filled
  rw [eq]
  exact .parts (text_of_readHead named space) texts ended

theorem read_of_text {line : String} {p : Point} (h : LineText line.toList p) :
    read line = .ok p := by
  generalize eq : line.toList = cs at h
  cases h with
  | parts named filled ended =>
    obtain ⟨last, rfl⟩ := eq_ending ended
    refine read_eq_ok_iff.mpr ⟨_, _, last, ?_, readHead_of_text named,
      readFields_eq_ok_iff.mpr ⟨_, filled, rfl⟩, ended⟩
    rw [eq, splitFirst_append (space_not_mem_head named)]

/-- A line is read as a point exactly when the line is a text of that point. -/
theorem read_iff_text (line : String) (p : Point) :
    read line = .ok p ↔ LineText line.toList p :=
  ⟨text_of_read, read_of_text⟩

/-- A line is a text of at most one point. -/
theorem LineText.unique {line : String} {p q : Point} (hp : LineText line.toList p)
    (hq : LineText line.toList q) : p = q := by
  have same := (read_of_text hp).symm.trans (read_of_text hq)
  exact Except.ok.inj same

end TelemetryRelay.Point
