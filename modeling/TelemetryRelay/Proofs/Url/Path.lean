import TelemetryRelay.Proofs.Url.Authority
import TelemetryRelay.Proofs.Url.Labels

namespace TelemetryRelay

theorem Percent.encode_eq_self {p : Char → Bool} {cs : List Char} (h : ∀ c ∈ cs, p c = false) :
    encode p cs = cs := by
  induction cs with
  | nil => rfl
  | cons c rest ih =>
    obtain ⟨first, later⟩ := List.forall_mem_cons.mp h
    have tail := ih later
    rw [encode] at tail ⊢
    rw [List.flatMap_cons, if_neg (by simp [first]), tail, List.singleton_append]

namespace Url

/-- A character without a role in an address: it counts, ends no part, and is written as it is. -/
@[mk_iff]
structure IsInert (c : Char) : Prop where
  counts : Url.counts c = true
  visible : ' ' < c
  place : endsAuthority true c = false
  path : endsPath c = false
  query : c ≠ '#'
  inPath : Percent.inPath c = false
  inQuery : Percent.inQuery true c = false

instance (c : Char) : Decidable (IsInert c) :=
  decidable_of_iff _ (isInert_iff c).symm

theorem isInert_of_isQuiet {c : Char} (quiet : isQuiet c = true) : IsInert c :=
  forall_isQuiet (P := IsInert) (by decide) quiet

/-- Whether a character may stand in a plain name in a path. -/
def isSegmentChar (c : Char) : Bool :=
  c.isAlphanum || c == '-' || c == '_'

/-- A plain name in a path. -/
structure IsPlainSegment (name : List Char) : Prop where
  ne_nil : name ≠ []
  chars : ∀ c ∈ name, isSegmentChar c = true

/-- Names of a path as they are written, each behind a slash. -/
def pathText (names : List (List Char)) : List Char :=
  names.flatMap ('/' :: ·)

/-- A query as it is written, behind its mark. -/
def queryText : Option (List Char) → List Char
  | none => []
  | some query => '?' :: query

theorem plain_of_all {names : List (List Char)}
    (all : names.all (fun name => !name.isEmpty && name.all isSegmentChar) = true) :
    ∀ name ∈ names, IsPlainSegment name := by
  intro name mem
  obtain ⟨filled, chars⟩ := Bool.and_eq_true_iff.mp (List.all_eq_true.mp all name mem)
  exact ⟨by simpa using filled, List.all_eq_true.mp chars⟩

namespace IsPlainSegment
variable {name : List Char} (plain : IsPlainSegment name)
include plain

theorem isQuiet : ∀ c ∈ name, Url.isQuiet c = true := by
  intro c mem
  have kinds : (c.isAlphanum = true ∨ c = '-') ∨ c = '_' := by
    simpa [isSegmentChar] using plain.chars c mem
  rcases kinds with (letter | rfl) | rfl
  · rw [Url.isQuiet, letter, Bool.true_or]
  · rfl
  · rfl

theorem no_slash : '/' ∉ name :=
  fun mem => absurd (plain.isQuiet _ mem) (by decide)

theorem toLower_ne {c : Char} (mem : c ∈ name.map Char.toLower) : c ≠ '.' ∧ c ≠ '%' := by
  obtain ⟨d, inside, rfl⟩ := List.mem_map.mp mem
  exact forall_isQuiet (P := fun d => isSegmentChar d = true → d.toLower ≠ '.' ∧ d.toLower ≠ '%')
    (by decide) (plain.isQuiet d inside) (plain.chars d inside)

/-- It stands neither for the directory itself nor for the one above. -/
theorem not_relative : isAbove name = false ∧ isHere name = false := by
  have marked : ∀ text ∈ ["..", ".%2e", "%2e.", "%2e%2e"] ++ [".", "%2e"],
      '.' ∈ text.toList ∨ '%' ∈ text.toList := by decide
  have other : String.ofList (name.map Char.toLower) ∉
      ["..", ".%2e", "%2e.", "%2e%2e"] ++ [".", "%2e"] := by
    intro mem
    rcases marked _ mem with point | sign
    · exact (plain.toLower_ne (by simpa using point)).1 rfl
    · exact (plain.toLower_ne (by simpa using sign)).2 rfl
  obtain ⟨above, here⟩ := not_or.mp (mt List.mem_append.mpr other)
  exact ⟨Bool.eq_false_iff.mpr (mt List.contains_iff_mem.mp above),
    Bool.eq_false_iff.mpr (mt List.contains_iff_mem.mp here)⟩

theorem writtenName (done : List String) : Url.writtenName false done name = String.ofList name := by
  have kept : ∀ c ∈ name, Percent.inPath c = false :=
    fun c mem => (isInert_of_isQuiet (plain.isQuiet c mem)).inPath
  rw [Url.writtenName, Percent.encode_eq_self kept]
  rfl

end IsPlainSegment

section Path
variable {names : List (List Char)} (plain : ∀ name ∈ names, IsPlainSegment name)
include plain

theorem resolve_plain (done : List String) :
    resolve false done names = done.reverse ++ names.map String.ofList := by
  induction names generalizing done with
  | nil => simp [resolve]
  | cons name rest ih =>
    obtain ⟨first, later⟩ := List.forall_mem_cons.mp plain
    obtain ⟨above, here⟩ := first.not_relative
    rw [resolve, above, here, first.writtenName]
    simp only [Bool.false_eq_true, if_false]
    rw [ih later]
    simp

theorem inside_pathText : ∀ c ∈ pathText names, endsPath c = false ∧ c ≠ '\\' := by
  intro c mem
  obtain ⟨name, inside, mem⟩ := List.mem_flatMap.mp mem
  rcases List.mem_cons.mp mem with rfl | mem
  · decide
  · have inert := isInert_of_isQuiet ((plain name inside).isQuiet c mem)
    refine ⟨inert.path, ?_⟩
    rintro rfl
    exact absurd inert.place (by decide)

theorem readSegments_plain {name : List Char} (first : IsPlainSegment name) :
    readSegments true (name ++ pathText names) = String.ofList name :: names.map String.ofList := by
  have forward : ∀ c ∈ name ++ pathText names, (if c == '\\' then '/' else c) = c := by
    intro c mem
    have other : c ≠ '\\' := by
      rcases List.mem_append.mp mem with mem | mem
      · rintro rfl
        exact absurd (first.isQuiet _ mem) (by decide)
      · exact (inside_pathText plain c mem).2
    rw [if_neg (by simpa using other)]
  have all : ∀ part ∈ name :: names, IsPlainSegment part := List.forall_mem_cons.mpr ⟨first, plain⟩
  rw [readSegments, splitPath, if_pos rfl, List.map_congr_left forward, List.map_id', pathText,
    Text.splitOn_flatMap first.no_slash fun part mem => (plain part mem).no_slash,
    resolve_plain all]
  rfl

end Path

section Query
variable {query : Option (List Char)} (quiet : ∀ q ∈ query, ∀ c ∈ q, isQuiet c = true)
include quiet

theorem readTail_queryText (u : Url) : readTail true (queryText query) u =
    { u with query := query.map String.ofList, fragment := none } := by
  cases query with
  | none => rfl
  | some q =>
    have kept : ∀ c ∈ q, Percent.inQuery true c = false :=
      fun c mem => (isInert_of_isQuiet (quiet q rfl c mem)).inQuery
    have pass : ∀ c ∈ q, (c != '#') = true :=
      fun c mem => bne_iff_ne.mpr (isInert_of_isQuiet (quiet q rfl c mem)).query
    simp only [readTail, queryText, List.takeWhile_eq_self_iff.mpr pass,
      List.dropWhile_eq_nil_iff.mpr pass, Percent.encode_eq_self kept, Option.map_some]

/-- The path and the query are read as they are written. -/
theorem readAfterHost_plain {names : List (List Char)} (some_name : names ≠ [])
    (plain : ∀ name ∈ names, IsPlainSegment name) (u : Url) :
    readAfterHost true (pathText names ++ queryText query) u =
      { u with
        path := .segments (names.map String.ofList), query := query.map String.ofList,
        fragment := none } := by
  obtain ⟨first, rest, rfl⟩ := List.exists_cons_of_ne_nil some_name
  obtain ⟨head, later⟩ := List.forall_mem_cons.mp plain
  have pass : ∀ c ∈ pathText (first :: rest), (!endsPath c) = true := by
    intro c mem
    rw [(inside_pathText plain c mem).1, Bool.not_false]
  have stop : ∀ c, (queryText query).head? = some c → (!endsPath c) = false := by
    intro c mem
    cases query with
    | none => contradiction
    | some q =>
      cases Option.some.inj mem
      rfl
  have cut := Text.span_append pass stop
  rw [List.span_eq_takeWhile_dropWhile] at cut
  obtain ⟨path, behind⟩ := Prod.mk.inj cut
  have written : pathText (first :: rest) = '/' :: (first ++ pathText rest) := rfl
  simp only [readAfterHost, path, behind]
  rw [written, readTail_queryText quiet]
  simp only [beq_self_eq_true, Bool.true_or, if_true, readSegments_plain later head, List.map_cons]

end Query

theorem PortText.isQuiet {scheme : String} {tail : List Char} {port : Nat}
    (suffix : PortText scheme tail port) : ∀ c ∈ tail, Url.isQuiet c = true := by
  cases suffix with
  | none => simp
  | empty => simp [Url.isQuiet]
  | digits _ digits _ =>
    refine List.forall_mem_cons.mpr ⟨rfl, fun c mem => ?_⟩
    have sign : c.isAlphanum = true := Bool.or_eq_true_iff.mpr (.inr (digits c mem))
    rw [Url.isQuiet, sign, Bool.true_or]

/-- A port as it is written behind a host. -/
def portText : Option Nat → List Char
  | none => []
  | some n => ':' :: Nat.toDigits 10 n

theorem portText_head (p : Option Nat) : portText p = [] ∨ (portText p).head? = some ':' := by
  cases p with
  | none => exact .inl rfl
  | some n => exact .inr rfl

/-- A port that was read is read from its digits again. -/
theorem readPort_portText {scheme : String} {ds : List Char} {p : Option Nat}
    (read : readPort scheme ds = .ok p) : readPort scheme ((portText p).drop 1) = .ok p := by
  cases p with
  | none => exact readPort_nil scheme
  | some n =>
    unfold readPort at read
    split at read
    next => contradiction
    next =>
      dsimp only at read
      split at read
      next => contradiction
      next bound =>
        split at read
        next => cases read
        next usual =>
          have number := Option.some.inj (Except.ok.inj read)
          rw [number] at bound usual
          have digits : (Nat.toDigits 10 n).all Char.isDigit = true :=
            List.all_eq_true.mpr fun c => Nat.isDigit_of_mem_toDigits (by decide) (by decide)
          have other : defaultPort? scheme ≠ some n := fun eq => usual (by simp [eq])
          simp [portText, readPort, digits, Nat.ofDigitChars_ten_toDigits, bound, other,
            Nat.toDigits_ne_nil]

/-- The address of plain parts. -/
def plainUrl (scheme : String) (name : List Char) (port : Option Nat) (names : List (List Char))
    (query : Option (List Char)) : Url where
  scheme
  host := some (.name (String.ofList name))
  port
  path := .segments (names.map String.ofList)
  query := query.map String.ofList

/-- The text of an address of plain parts behind the two slashes. -/
def plainText (name tail : List Char) (names : List (List Char)) (query : Option (List Char)) :
    List Char :=
  name ++ tail ++ (pathText names ++ queryText query)

theorem renderPath_segments (names : List (List Char)) :
    (renderPath (.segments (names.map String.ofList))).toList = pathText names := by
  simp [renderPath, pathText, List.flatMap_map]

theorem render_plainUrl {scheme : String} {name : List Char} {p : Option Nat}
    {names : List (List Char)} {query : Option (List Char)} :
    (plainUrl scheme name p names query).render.toList =
      scheme.toList ++ ':' :: '/' :: '/' :: plainText name (portText p) names query := by
  have place : (plainUrl scheme name p names query).renderAuthority.toList =
      '/' :: '/' :: (name ++ portText p) := by
    cases p <;> simp [renderAuthority, renderUser, plainUrl, Host.render, portText]
  have target : (plainUrl scheme name p names query).target.toList =
      pathText names ++ queryText query := by
    cases query <;>
      simp [Url.target, renderPath_segments, renderMarked, plainUrl, queryText]
  simp only [render, String.toList_append, place, target, plainText]
  simp [plainUrl, renderMarked]

/-- Parts of which the text of an address can be made: a plain host name, a port, plain names in the
path and perhaps a query of quiet characters. -/
structure ArePlain (scheme : String) (name tail : List Char) (p : Option Nat)
    (names : List (List Char)) (query : Option (List Char)) : Prop where
  host : IsPlainName name
  suffix : ∃ port, PortText scheme tail port
  ported : readPort scheme (tail.drop 1) = .ok p
  some_name : names ≠ []
  names : ∀ name ∈ names, IsPlainSegment name
  query : ∀ q ∈ query, ∀ c ∈ q, isQuiet c = true

namespace ArePlain
variable {scheme : String} {name tail : List Char} {p : Option Nat}
variable {names : List (List Char)} {query : Option (List Char)}
variable (plain : ArePlain scheme name tail p names query)
include plain

theorem quiet_place : ∀ c ∈ name ++ tail, isQuiet c = true := by
  obtain ⟨port, suffix⟩ := plain.suffix
  exact List.forall_mem_append.mpr ⟨plain.host.isQuiet, suffix.isQuiet⟩

/-- All of the text is heard. -/
theorem heard : ∀ c ∈ plainText name tail names query, ' ' < c ∧ counts c = true := by
  have quiet : ∀ c, isQuiet c = true → ' ' < c ∧ counts c = true := fun c quiet =>
    ⟨(isInert_of_isQuiet quiet).visible, (isInert_of_isQuiet quiet).counts⟩
  refine List.forall_mem_append.mpr ⟨fun c mem => quiet c (plain.quiet_place c mem),
    List.forall_mem_append.mpr ⟨fun c mem => ?_, ?_⟩⟩
  · obtain ⟨part, inside, mem⟩ := List.mem_flatMap.mp mem
    rcases List.mem_cons.mp mem with rfl | mem
    · decide
    · exact quiet c ((plain.names part inside).isQuiet c mem)
  · cases query with
    | none => simp [queryText]
    | some q =>
      refine List.forall_mem_cons.mpr ⟨by decide, fun c mem => ?_⟩
      exact quiet c (plain.query q rfl c mem)

/-- The port may be written anew. -/
theorem rendered : ArePlain scheme name (portText p) p names query := by
  obtain ⟨port, suffix⟩ := plain.suffix
  obtain ⟨p', ported, found⟩ := (portText_iff suffix.head).mp suffix
  cases ported.symm.trans plain.ported
  have again := readPort_portText plain.ported
  exact { plain with
    suffix := ⟨port, (portText_iff (portText_head p)).mpr ⟨p, again, found⟩⟩, ported := again }

variable (special : isSpecial scheme = true)
include special

theorem readAuthority : Url.readAuthority scheme (name ++ tail) { scheme, path := .segments [] } =
    .ok ({ scheme, host := some (.name (String.ofList name)), port := p, path := .segments [] },
      []) := by
  obtain ⟨port, suffix⟩ := plain.suffix
  have letters := plain.host.isPlain
  have straight : '\\' ∉ tail := by
    intro mem
    exact absurd (suffix.isQuiet _ mem) (by decide)
  have ends : tail = [] ∨ tail.head? = some ':' ∧ name.foldl opens false = false :=
    suffix.head.imp id fun colon => ⟨colon, foldl_opens_plain letters⟩
  obtain ⟨user, password, absent, eq⟩ := readAuthority_eq { scheme, path := .segments [] } special
    (.inl rfl) (suffix.no_at_append letters) (closed_plain letters) ends straight
  obtain ⟨rfl, rfl⟩ := absent rfl
  rw [plain.host.readSpecial, plain.ported] at eq
  exact eq

theorem readFromHost : Url.readFromHost scheme (plainText name tail names query) =
    .ok (plainUrl scheme name p names query) := by
  have inside : ∀ c ∈ name ++ tail, (!endsAuthority true c) = true := by
    intro c mem
    rw [(isInert_of_isQuiet (plain.quiet_place c mem)).place, Bool.not_false]
  have stop : ∀ c, (pathText names ++ queryText query).head? = some c →
      (!endsAuthority true c) = false := by
    obtain ⟨first, rest, rfl⟩ := List.exists_cons_of_ne_nil plain.some_name
    intro c mem
    cases Option.some.inj mem
    rfl
  have cut := Text.span_append inside stop
  rw [List.span_eq_takeWhile_dropWhile] at cut
  obtain ⟨place, behind⟩ := Prod.mk.inj cut
  simp only [Url.readFromHost, plainText, special, place, behind, plain.readAuthority special,
    Except.map, List.nil_append, readAfterHost_plain plain.query plain.some_name plain.names]
  rfl

end ArePlain

end Url
end TelemetryRelay
