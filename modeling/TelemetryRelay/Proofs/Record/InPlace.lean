import TelemetryRelay.Proofs.Record.Reading
import TelemetryRelay.Proofs.Text.Pairing
import TelemetryRelay.Record.InPlace

namespace TelemetryRelay.Point
open Utf8

theorem readCut_quoted (inside : List Char) :
    readCut ('"' :: inside ++ ['"']) =
      some (.ok (.text (String.ofList (Quoted.unescape inside)))) := by
  have width : Utf8.size ['"'] = 1 := rfl
  have total : Utf8.size (['"'] ++ inside ++ ['"']) = 1 + Utf8.size inside + 1 := by
    rw [size_append, size_append, width]
  have cut := slice?_append ['"'] inside ['"']
  rw [width] at cut
  rw [List.cons_append, ← List.singleton_append, ← List.append_assoc, readCut, total,
    Nat.add_sub_cancel, cut, if_pos]
  · rfl
  · exact ⟨by omega, rfl, List.getLast?_concat⟩

theorem readCut_bare {cs : List Char} (unquoted : cs.head? ≠ some '"') :
    readCut cs = some (readBare cs) :=
  if_neg fun h => unquoted h.2.1

theorem readValue_quoted (cs : List Char) :
    readValue ('"' :: cs) =
      match Quoted.splitAtQuote cs with
      | none => .error .invalidParameter
      | some (inside, rest) => .ok (.text (String.ofList (Quoted.unescape inside)), rest) := by
  rw [readValue.eq_def]
  rfl

theorem readValue_bare {cs bare rest : List Char} (unquoted : cs.head? ≠ some '"')
    (parts : cs.span (fun c => !endsBare c) = (bare, rest)) :
    readValue cs = (readBare bare).map fun v => (v, rest) := by
  rw [readValue.eq_def]
  split
  next => simp at unquoted
  next => rw [parts]

theorem valueAt_quoted (front cs : List Char) :
    valueAt (front ++ '"' :: cs) (Utf8.size front) =
      some ((readValue ('"' :: cs)).map fun (v, after) =>
        (v, Utf8.size (front ++ '"' :: cs) - Utf8.size after)) := by
  have width : Utf8.size ['"'] = 1 := rfl
  have quoted : (encode (String.ofList (front ++ '"' :: cs)))[Utf8.size front]? = some 0x22 :=
    (getElem?_encode_iff front ('"' :: cs) (c := '"') (by decide)).mpr rfl
  have behind : (encode (String.ofList (front ++ '"' :: cs))).drop (Utf8.size front + 1) =
      encode (String.ofList cs) := by
    have dropped := drop_encode (front ++ ['"']) cs
    rwa [size_append, width, List.append_assoc, List.singleton_append] at dropped
  rw [readValue_quoted, valueAt, valueEnd]
  simp only [quoted, if_true, behind, Quoted.closingQuote_encode]
  cases split : Quoted.splitAtQuote cs with
  | none => rfl
  | some parts =>
    obtain ⟨inside, after⟩ := parts
    obtain ⟨-, rfl⟩ := Quoted.splitAtQuote_eq_some_iff.mp split
    have cut := slice?_append front ('"' :: inside ++ ['"']) after
    have stop : Utf8.size front + Utf8.size ('"' :: inside ++ ['"']) =
        Utf8.size front + 1 + Utf8.size inside + 1 := by
      rw [size_append, ← List.singleton_append, size_append, width]
      omega
    have text : front ++ '"' :: (inside ++ '"' :: after) =
        front ++ ('"' :: inside ++ ['"']) ++ after := by simp
    have ahead : Utf8.size (front ++ ('"' :: inside ++ ['"']) ++ after) - Utf8.size after =
        Utf8.size front + 1 + Utf8.size inside + 1 := by
      rw [size_append, Nat.add_sub_cancel, size_append, stop]
    rw [stop] at cut
    rw [text]
    simp only [Option.map_some, cut, Option.bind_some, readCut_quoted, Except.map, ahead]

theorem valueAt_bare (front : List Char) {cs : List Char} (unquoted : cs.head? ≠ some '"') :
    valueAt (front ++ cs) (Utf8.size front) =
      some ((readValue cs).map fun (v, after) => (v, Utf8.size (front ++ cs) - Utf8.size after)) := by
  have bare_byte : (encode (String.ofList (front ++ cs)))[Utf8.size front]? ≠ some 0x22 :=
    fun quoted => unquoted ((getElem?_encode_iff front cs (c := '"') (by decide)).mp quoted)
  obtain ⟨⟨bare, after⟩, parts⟩ : ∃ parts, cs.span (fun c => !endsBare c) = parts := ⟨_, rfl⟩
  obtain ⟨rfl, pass, stop⟩ := Text.parts_of_span parts
  have skipped : ∀ c ∈ bare, endsBare c = false := fun c mem => by simpa using pass c mem
  have found : ((find? endsBare (bare ++ after)).map (Utf8.size front + ·)).getD
      (encode (String.ofList (front ++ (bare ++ after)))).length =
        Utf8.size front + Utf8.size bare := by
    cases after with
    | nil =>
      rw [List.append_nil, find?_eq_none skipped, Option.map_none, Option.getD_none, encode_ofList,
        length_flatMap_encodeChar, size_append]
    | cons c rest =>
      rw [find?_append bare rest skipped (by simpa using stop c rfl)]
      rfl
  have cut := slice?_append front bare after
  have ahead : Utf8.size (front ++ (bare ++ after)) - Utf8.size after =
      Utf8.size front + Utf8.size bare := by
    rw [← List.append_assoc, size_append, Nat.add_sub_cancel, size_append]
  have unquoted' : bare.head? ≠ some '"' := by
    intro quote
    rw [List.head?_append, quote] at unquoted
    exact unquoted rfl
  rw [readValue_bare unquoted parts, valueAt, valueEnd]
  simp only [bare_byte, if_false, dropBytes?_append, Option.map_some, found]
  rw [← List.append_assoc, cut, Option.bind_some, readCut_bare unquoted', Option.map_some,
    List.append_assoc, ← ahead]
  cases readBare bare <;> rfl

theorem valueAt_eq (front cs : List Char) :
    valueAt (front ++ cs) (Utf8.size front) =
      some ((readValue cs).map fun (v, after) => (v, Utf8.size (front ++ cs) - Utf8.size after)) := by
  by_cases quoted : cs.head? = some '"'
  · obtain ⟨rest, rfl⟩ := List.head?_eq_some_iff.mp quoted
    exact valueAt_quoted front rest
  · exact valueAt_bare front quoted

theorem no_equals {cs : List Char} (free : '=' ∉ cs) : ∀ c ∈ cs, (c == '=') = false := by
  intro c mem
  rw [beq_eq_false_iff_ne]
  rintro rfl
  exact free mem

theorem fieldAt_eq (front cs : List Char) :
    fieldAt (front ++ cs) (Utf8.size front) =
      some ((readField cs).map fun (field, after) =>
        (field, Utf8.size (front ++ cs) - Utf8.size after)) := by
  rw [fieldAt, dropBytes?_append, Option.bind_some, readField]
  by_cases equals : '=' ∈ cs
  · obtain ⟨key, rest, rfl, free⟩ := List.eq_append_cons_of_mem equals
    have cut := slice?_append front key ('=' :: rest)
    have start : Utf8.size (front ++ key ++ ['=']) = Utf8.size front + Utf8.size key + 1 := by
      rw [size_append, size_append]
      rfl
    have text : front ++ (key ++ '=' :: rest) = front ++ key ++ ['='] ++ rest := by simp
    rw [Text.splitFirst_append free, find?_append key rest (no_equals free) rfl]
    dsimp only
    rw [← List.append_assoc, cut, Option.bind_some]
    split
    next =>
      rw [List.append_assoc, text, ← start, valueAt_eq, Option.map_some]
      cases readValue rest <;> rfl
    next => rfl
  · rw [Text.splitFirst_eq_none equals, find?_eq_none (no_equals equals)]
    rfl

/-- The byte after a field that ends otherwise than with a comma or a space. -/
theorem exists_other_byte (front : List Char) {c : Char} (rest : List Char) (comma : c ≠ ',')
    (space : c ≠ ' ') :
    ∃ b, (encode (String.ofList (front ++ c :: rest)))[Utf8.size front]? = some b ∧ b ≠ 0x2C ∧
      b ≠ 0x20 := by
  have within : (encode (String.ofList (front ++ c :: rest)))[Utf8.size front]? ≠ none := by
    rw [getElem?_encode, Ne, List.head?_eq_none_iff]
    exact encode_ne_nil (by simp)
  obtain ⟨b, byte⟩ := Option.ne_none_iff_exists'.mp within
  refine ⟨b, byte, ?_, ?_⟩
  · rintro rfl
    have head := (getElem?_encode_iff front (c :: rest) (c := ',') (by decide)).mp byte
    exact comma (Option.some.inj head)
  · rintro rfl
    have head := (getElem?_encode_iff front (c :: rest) (c := ' ') (by decide)).mp byte
    exact space (Option.some.inj head)

/-- Wherever fields are read from, all slices can be taken, and the fields are the same. -/
theorem fieldsFrom_eq (front cs : List Char) (done : List (String × FieldValue)) (fuel : Nat) :
    fieldsFrom (front ++ cs) done fuel (Utf8.size front) = some (readFieldsOnto done fuel cs) := by
  induction fuel generalizing front cs done with
  | zero => rfl
  | succ fuel ih =>
    rw [fieldsFrom, fieldAt_eq, readFieldsOnto]
    cases read : readField cs with
    | error e => rfl
    | ok parts =>
      obtain ⟨field, after⟩ := parts
      obtain ⟨raw, -, rfl⟩ := text_of_readField read
      have stop : Utf8.size (front ++ (raw ++ after)) - Utf8.size after =
          Utf8.size (front ++ raw) := by
        rw [← List.append_assoc, size_append, Nat.add_sub_cancel]
      simp only [Except.map, stop]
      rw [← List.append_assoc]
      cases after with
      | nil =>
        rw [getElem?_encode, encode_ofList]
        rfl
      | cons c rest =>
        have comma := getElem?_encode_iff (front ++ raw) (c :: rest) (c := ',') (by decide)
        have space := getElem?_encode_iff (front ++ raw) (c :: rest) (c := ' ') (by decide)
        by_cases more : c = ','
        · subst more
          have later := ih (front ++ raw ++ [',']) rest (field :: done)
          rw [size_append, List.append_assoc, List.singleton_append] at later
          rw [comma.mpr rfl]
          exact later
        · by_cases ends : c = ' '
          · subst ends
            have left := dropBytes?_append (front ++ raw ++ [' ']) rest
            rw [size_append, List.append_assoc, List.singleton_append] at left
            rw [space.mpr rfl]
            exact congrArg (Option.map fun rest : List Char =>
              (.ok ((field :: done).reverse, some rest) :
                Except RecordError (List (String × FieldValue) × Option (List Char)))) left
          · obtain ⟨b, byte, no_comma, no_space⟩ := exists_other_byte (front ++ raw) rest more ends
            rw [byte]
            simp [no_comma, no_space, more, ends]

/-- Between two fields a comma is used up, so that as many as there are characters are enough. -/
theorem readFieldsOnto_succ {fuel : Nat} {cs : List Char} (enough : cs.length < fuel)
    (done : List (String × FieldValue)) :
    readFieldsOnto done (fuel + 1) cs = readFieldsOnto done fuel cs := by
  induction fuel generalizing cs done with
  | zero => omega
  | succ fuel ih =>
    rw [readFieldsOnto.eq_2, readFieldsOnto.eq_2]
    cases read : readField cs with
    | error e => rfl
    | ok parts =>
      obtain ⟨field, after⟩ := parts
      obtain ⟨raw, -, rfl⟩ := text_of_readField read
      cases after with
      | nil => rfl
      | cons c rest =>
        have shorter : rest.length < fuel := by
          simp only [List.length_append, List.length_cons] at enough
          omega
        dsimp only
        rw [ih shorter (field :: done)]

theorem readFieldsOnto_fuel {fuel : Nat} {cs : List Char} (enough : cs.length < fuel)
    (done : List (String × FieldValue)) :
    readFieldsOnto done fuel cs = readFieldsOnto done (cs.length + 1) cs := by
  induction fuel, enough using Nat.le_induction with
  | base => rfl
  | succ fuel enough ih => rw [readFieldsOnto_succ enough, ih]

/-- However many fields are allowed for beyond the number of characters, fields are read in place as
they are read otherwise. -/
theorem fieldsFrom_eq_readFields {cs : List Char} {fuel : Nat} (enough : cs.length < fuel) :
    fieldsFrom cs [] fuel 0 = some (readFields cs) := by
  have whole := fieldsFrom_eq [] cs [] fuel
  rw [List.nil_append, size_nil, readFieldsOnto_fuel enough] at whole
  exact whole

/-- A text in quotes, and what follows it. -/
def quotedBefore (text after : List Char) : List Char :=
  '"' :: Quoted.escape text ++ '"' :: after

/-- The place of the closing quote of `quotedBefore`. -/
def quotedStop (text : List Char) : Nat :=
  1 + Utf8.size (Quoted.escape text)

theorem closingQuote_drop (front cs : List Char) :
    Quoted.closingQuote (Utf8.size front)
        ((encode (String.ofList (front ++ cs))).drop (Utf8.size front)) =
      (Quoted.splitAtQuote cs).map fun parts => Utf8.size front + Utf8.size parts.1 := by
  rw [drop_encode, Quoted.closingQuote_encode]

theorem closingQuote_quotedBefore (text after : List Char) :
    Quoted.closingQuote 1 ((encode (String.ofList (quotedBefore text after))).drop 1) =
      some (quotedStop text) := by
  have split : Quoted.splitAtQuote (Quoted.escape text ++ '"' :: after) =
      some (Quoted.escape text, after) :=
    Quoted.splitAtQuote_eq_some_iff.mpr ⟨⟨text, Quoted.escape_inside text⟩, rfl⟩
  have found := closingQuote_drop ['"'] (Quoted.escape text ++ '"' :: after)
  rw [split] at found
  exact found

theorem quote_quotedBefore (text after : List Char) :
    (encode (String.ofList (quotedBefore text after)))[quotedStop text]? = some 0x22 := by
  have stop : Utf8.size ('"' :: Quoted.escape text) = quotedStop text := size_cons _ _
  have quote := getElem?_encode_iff ('"' :: Quoted.escape text) ('"' :: after) (c := '"') (by decide)
  rw [stop] at quote
  exact quote.mpr rfl

theorem slice?_quotedBefore (text after : List Char) :
    slice? (quotedBefore text after) 1 (quotedStop text) = some (Quoted.escape text) :=
  slice?_append ['"'] (Quoted.escape text) ('"' :: after)

/-- The closing quote of an escaped text is found, and what lies before it stands for the text. Among
the bytes it is found where it is among the characters, so that reading in place takes no slice that
cannot be taken and reads what is read otherwise. A text without an unpaired quote is read and
written again unchanged exactly if all its backslashes are needed. -/
theorem quoted_framed :
    (∀ text after : List Char,
      Quoted.closingQuote 1 ((encode (String.ofList (quotedBefore text after))).drop 1) =
          some (quotedStop text) ∧
        (encode (String.ofList (quotedBefore text after)))[quotedStop text]? = some 0x22 ∧
        (slice? (quotedBefore text after) 1 (quotedStop text)).map Quoted.unescape = some text) ∧
      (∀ front cs : List Char,
        Quoted.closingQuote (Utf8.size front)
            ((encode (String.ofList (front ++ cs))).drop (Utf8.size front)) =
          (Quoted.splitAtQuote cs).map fun parts => Utf8.size front + Utf8.size parts.1) ∧
      (∀ (cs : List Char) (fuel : Nat), cs.length < fuel →
        fieldsFrom cs [] fuel 0 = some (readFields cs)) ∧
      ∀ cs : List Char, Quoted.Piece.single '"' ∉ Quoted.pieces cs →
        (Quoted.escape (Quoted.unescape cs) = cs ↔ ∀ p ∈ Quoted.pieces cs, p.IsNeeded) := by
  refine ⟨fun text after => ⟨closingQuote_quotedBefore text after, quote_quotedBefore text after, ?_⟩,
    closingQuote_drop, fun cs fuel enough => fieldsFrom_eq_readFields enough,
    fun cs closed => Quoted.escape_unescape_iff closed⟩
  rw [slice?_quotedBefore, Option.map_some, Quoted.unescape_inside (Quoted.escape_inside text)]

/-- A text in which backslashes stand before a character of two bytes, a quote and a backslash. -/
def slashedText : List Char :=
  "\\é\\\"\\\\".toList

/-- Fields of which the first one is `slashedText` in quotes. -/
def slashedFields : List Char :=
  "k=\"".toList ++ slashedText ++ "\",n=1i 5".toList

theorem slashedText_framed :
    slashedFields.length < 20 ∧ fieldsFrom slashedFields [] 20 0 = some (readFields slashedFields) ∧
      Quoted.Piece.single '"' ∉ Quoted.pieces slashedText ∧
      Quoted.escape (Quoted.unescape slashedText) ≠ slashedText := by
  have fewer : slashedFields.length < 20 := by decide
  have closed : Quoted.Piece.single '"' ∉ Quoted.pieces slashedText := by decide
  have unneeded : ¬ ∀ p ∈ Quoted.pieces slashedText, p.IsNeeded := fun h => by
    have first := h (.pair 'é') (by decide)
    simp [Quoted.Piece.IsNeeded] at first
  obtain ⟨-, -, fields, kept⟩ := quoted_framed
  exact ⟨fewer, fields slashedFields 20 fewer, closed,
    fun same => unneeded ((kept slashedText closed).mp same)⟩

end TelemetryRelay.Point
