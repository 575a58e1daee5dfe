import TelemetryRelay.Proofs.Text.Splitting
import TelemetryRelay.Spool.Lines

namespace TelemetryRelay.Spool

/-- What a file gives back as it was written: a line that is not blank, has no line feed and does
not end in a carriage return. -/
structure IsLine (line : Bytes) : Prop where
  ne_nil : line ≠ []
  no_feed : lineFeed ∉ line
  no_return : line.getLast? ≠ some carriageReturn

theorem ofLines_ne_nil {ls : List Bytes} (h : ls ≠ []) : ofLines ls ≠ [] := by
  obtain ⟨l, rest, rfl⟩ := List.exists_cons_of_ne_nil h
  simp [ofLines]

theorem splitOn_ofLines {ls : List Bytes} (h : ∀ l ∈ ls, lineFeed ∉ l) (rest : Bytes) :
    (ofLines ls ++ rest).splitOn lineFeed = ls ++ rest.splitOn lineFeed := by
  induction ls with
  | nil => rfl
  | cons l ls ih =>
    have first : ofLines (l :: ls) ++ rest = l ++ lineFeed :: (ofLines ls ++ rest) := by
      simp [ofLines]
    rw [first, List.splitOn_append_cons_self_of_not_mem (h l (by simp)),
      ih fun l' hl => h l' (by simp [hl])]
    rfl

theorem IsLine.trim {line : Bytes} (h : IsLine line) : trimLine line = line := by
  simp [trimLine, h.no_return]

/-- The lines that are seen of pieces between line feeds. -/
def shown (pieces : List Bytes) : List Bytes :=
  (pieces.map trimLine).filter fun line => !line.isEmpty

@[simp] theorem shown_nil : shown [] = [] := rfl

@[simp] theorem shown_blank : shown [[]] = [] := rfl

@[simp] theorem lines_nil : lines [] = [] := by
  simp [lines, trimLine]

theorem shown_append (xs ys : List Bytes) : shown (xs ++ ys) = shown xs ++ shown ys := by
  simp [shown]

theorem shown_cons (x : Bytes) (xs : List Bytes) : shown (x :: xs) = shown [x] ++ shown xs :=
  shown_append [x] xs

theorem IsLine.shown {line : Bytes} (h : IsLine line) : shown [line] = [line] := by
  simp [Spool.shown, h.trim, h.ne_nil]

theorem shown_eq_self {ls : List Bytes} (h : ∀ l ∈ ls, IsLine l) : shown ls = ls := by
  induction ls with
  | nil => rfl
  | cons l ls ih =>
    rw [shown_cons, (h l (by simp)).shown, ih fun l' hl => h l' (by simp [hl])]
    rfl

/-- A file that goes on after whole lines shows these first. -/
theorem lines_ofLines_append {ls : List Bytes} (h : ∀ l ∈ ls, lineFeed ∉ l) (rest : Bytes) :
    lines (ofLines ls ++ rest) = shown ls ++ lines rest := by
  rw [lines, splitOn_ofLines h]
  exact shown_append ls (rest.splitOn lineFeed)

theorem lines_ofLines_eq {ls : List Bytes} (h : ∀ l ∈ ls, lineFeed ∉ l) :
    lines (ofLines ls) = shown ls := by
  have whole := lines_ofLines_append h []
  rwa [lines_nil, List.append_nil, List.append_nil] at whole

theorem lines_ofLines {ls : List Bytes} (h : ∀ l ∈ ls, IsLine l) : lines (ofLines ls) = ls := by
  rw [lines_ofLines_eq fun l hl => (h l hl).no_feed, shown_eq_self h]

theorem lines_piece {piece : Bytes} (h : lineFeed ∉ piece) : lines piece = shown [piece] := by
  rw [lines, List.splitOn_eq_singleton h]
  rfl

theorem lineFeed_not_mem_lines {content line : Bytes} (h : line ∈ lines content) :
    lineFeed ∉ line := by
  obtain ⟨piece, hp, rfl⟩ := List.mem_map.mp (List.mem_filter.mp h).1
  have free := Text.not_mem_of_mem_splitOn hp
  unfold trimLine
  split
  next => exact fun mem => free (List.dropLast_subset piece mem)
  next => exact free

/-- Every content is made of whole lines, blank ones among them, and of a piece after them that does
not end in a line feed. -/
theorem exists_pieces (content : Bytes) :
    ∃ whole piece, content = ofLines whole ++ piece ∧ (∀ l ∈ whole, lineFeed ∉ l) ∧
      lineFeed ∉ piece := by
  obtain ⟨first, rest, eq⟩ := List.exists_cons_of_ne_nil (List.splitOn_ne_nil lineFeed content)
  have free : ∀ l ∈ first :: rest, lineFeed ∉ l := fun l hl =>
    Text.not_mem_of_mem_splitOn (eq ▸ hl)
  rw [Text.flatMap_of_splitOn eq]
  clear eq
  induction rest generalizing first with
  | nil => exact ⟨[], first, by simp [ofLines], by simp, free first (by simp)⟩
  | cons l rest ih =>
    obtain ⟨whole, piece, eq, lines, last⟩ := ih l fun l' hl => free l' (by simp_all)
    refine ⟨first :: whole, piece, ?_, ?_, last⟩
    · simp only [List.flatMap_cons, List.cons_append, ofLines, eq]
      simp
    · exact List.forall_mem_cons.mpr ⟨free first (by simp), lines⟩

theorem getLast?_append_of_ne_nil {front back : Bytes} (h : back ≠ []) :
    (front ++ back).getLast? = back.getLast? := by
  rw [List.getLast?_append, List.getLast?_eq_some_getLast h, Option.some_or]

/-- The piece at the end is empty if the content is, or if it ends in a line feed. -/
theorem ended_iff {whole : List Bytes} {piece : Bytes} (free : lineFeed ∉ piece) :
    (ofLines whole ++ piece = [] ∨ (ofLines whole ++ piece).getLast? = some lineFeed) ↔
      piece = [] := by
  constructor
  · rintro (empty | last)
    · exact (List.append_eq_nil_iff.mp empty).2
    · by_contra ne
      rw [getLast?_append_of_ne_nil ne] at last
      exact free (List.mem_of_getLast? last)
  · rintro rfl
    rw [List.append_nil]
    cases h : whole.getLast? with
    | none => simp [List.getLast?_eq_none_iff.mp h, ofLines]
    | some l =>
      obtain ⟨ls, rfl⟩ := List.getLast?_eq_some_iff.mp h
      simp [ofLines]

theorem IsLine.shown_glued {line : Bytes} (h : IsLine line) (piece : Bytes) :
    Spool.shown [piece ++ line] = [piece ++ line] := by
  have last : (piece ++ line).getLast? = line.getLast? := getLast?_append_of_ne_nil h.ne_nil
  simp [Spool.shown, trimLine, last, h.no_return, h.ne_nil]

/-- A piece and a line behind it are seen as they are only if there is no piece. -/
theorem shown_glued_iff {piece line : Bytes} (isLine : IsLine line) :
    shown [piece ++ line] = shown [piece] ++ [line] ↔ piece = [] := by
  rw [isLine.shown_glued]
  constructor
  · intro same
    have length := congrArg List.length same
    simp only [List.length_append, List.length_singleton] at length
    have blank : shown [piece] = [] := List.length_eq_zero_iff.mp (by omega)
    rw [blank, List.nil_append, List.singleton_inj] at same
    simpa using same
  · rintro rfl
    rfl

/-- What is written behind a piece goes on with it up to the first line feed. -/
theorem lines_pieces_append {whole rest : List Bytes} {piece line : Bytes}
    (free : ∀ l ∈ whole, lineFeed ∉ l) (last : lineFeed ∉ piece)
    (clean : ∀ l ∈ line :: rest, lineFeed ∉ l) :
    lines (ofLines whole ++ piece ++ ofLines (line :: rest)) =
      shown whole ++ (shown [piece ++ line] ++ shown rest) := by
  have joined : ofLines whole ++ piece ++ ofLines (line :: rest) =
      ofLines (whole ++ (piece ++ line) :: rest) := by simp [ofLines]
  rw [joined, lines_ofLines_eq, shown_append, shown_cons]
  intro l hl
  simp only [List.mem_append, List.mem_cons] at hl
  rcases hl with old | rfl | new
  · exact free l old
  · simpa [last] using clean line (by simp)
  · exact clean l (by simp [new])

theorem shown_eq_filter {ls : List Bytes} (h : ∀ l ∈ ls, l = [] ∨ IsLine l) :
    shown ls = ls.filter fun line => !line.isEmpty := by
  have trimmed : ls.map trimLine = ls := by
    refine (List.map_congr_left fun l hl => ?_).trans (List.map_id ls)
    rcases h l hl with rfl | isLine
    · rfl
    · exact isLine.trim
  rw [shown, trimmed]

/-- Lines that are written behind any content are all seen, after those from before, if and only if
the content ends where a line ends or a blank line comes first. -/
theorem lines_append_ofLines_iff {content : Bytes} {ls : List Bytes}
    (h : ∀ l ∈ ls, l = [] ∨ IsLine l) :
    lines (content ++ ofLines ls) = lines content ++ ls.filter (fun line => !line.isEmpty) ↔
      (content = [] ∨ content.getLast? = some lineFeed) ∨ ∀ l ∈ ls.head?, l = [] := by
  obtain ⟨whole, piece, rfl, free, last⟩ := exists_pieces content
  rw [ended_iff last, ← shown_eq_filter h, lines_ofLines_append free, lines_piece last]
  cases ls with
  | nil =>
    have none_ : ofLines [] = [] := rfl
    rw [none_, List.append_nil, lines_ofLines_append free, lines_piece last]
    simp
  | cons line rest =>
    have clean : ∀ l ∈ line :: rest, lineFeed ∉ l := by
      intro l hl
      rcases h l hl with rfl | isLine
      · simp
      · exact isLine.no_feed
    rw [lines_pieces_append free last clean, shown_cons line rest, List.append_assoc,
      List.append_cancel_left_eq, ← List.append_assoc, List.append_cancel_right_eq]
    rcases h line (by simp) with rfl | isLine
    · simp
    · rw [isLine.shown, shown_glued_iff isLine]
      simp [isLine.ne_nil]

/-- A line that is written behind whole lines is the last one. -/
theorem lines_append {content line : Bytes}
    (ended : content = [] ∨ content.getLast? = some lineFeed) (isLine : IsLine line) :
    lines (content ++ (line ++ [lineFeed])) = lines content ++ [line] := by
  obtain ⟨whole, piece, rfl, free, last⟩ := exists_pieces content
  obtain rfl := (ended_iff last).mp ended
  have one : line ++ [lineFeed] = ofLines [line] := by simp [ofLines]
  rw [List.append_nil, one, lines_ofLines_append free, lines_ofLines_eq free,
    lines_ofLines fun l hl => (List.mem_singleton.mp hl).symm ▸ isLine]

end TelemetryRelay.Spool
