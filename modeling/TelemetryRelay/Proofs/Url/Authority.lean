import TelemetryRelay.Proofs.Outcomes
import TelemetryRelay.Proofs.Text.Splitting
import TelemetryRelay.Proofs.Url.Names
import TelemetryRelay.Url.Reader

namespace TelemetryRelay.Url

/-- Whether a bracket is open after a character. -/
def opens (inside : Bool) (c : Char) : Bool :=
  if c == '[' then true else if c == ']' then false else inside

/-- A name whose colons all stand in brackets. -/
def Closed (inside : Bool) (name : List Char) : Prop :=
  ∀ front back, name = front ++ ':' :: back → front.foldl opens inside = true

/-- What follows the name of a host: a port after a colon. Without a number it is the usual one. -/
inductive PortText (scheme : String) : List Char → Nat → Prop where
  | none {port : Nat} (usual : defaultPort? scheme = some port) : PortText scheme [] port
  | empty {port : Nat} (usual : defaultPort? scheme = some port) : PortText scheme [':'] port
  | digits {ds : List Char} (some_digit : ds ≠ []) (digits : ∀ c ∈ ds, c.isDigit = true)
      (bound : Nat.ofDigitChars 10 ds 0 ≤ 65535) :
      PortText scheme (':' :: ds) (Nat.ofDigitChars 10 ds 0)

/-- A place as it is written: nothing or a user with an at sign, the name of a host, whose colons
stand in brackets, and a port. The host is what `Host.readSpecial` makes of the name: not only
capitals, but also percent signs, characters beyond ASCII and the forms of numbers that stand for an
address are brought to one spelling. -/
inductive PlaceText (scheme : String) : List Char → Host → Nat → Prop where
  | intro {user name tail : List Char} {host : Host} {port : Nat}
      (user_end : user = [] ∨ user.getLast? = some '@') (no_at : '@' ∉ name ++ tail)
      (closed : Closed false name)
      (outside : tail = [] ∨ name.foldl opens false = false)
      (names : Host.readSpecial name = .ok host) (ends : PortText scheme tail port) :
      PlaceText scheme (user ++ (name ++ tail)) host port

theorem PortText.head {scheme : String} {tail : List Char} {port : Nat}
    (h : PortText scheme tail port) : tail = [] ∨ tail.head? = some ':' := by
  cases h with
  | none => exact .inl rfl
  | empty => exact .inr rfl
  | digits => exact .inr rfl

theorem PortText.no_at {scheme : String} {tail : List Char} {port : Nat}
    (h : PortText scheme tail port) : '@' ∉ tail := by
  cases h with
  | none => simp
  | empty => simp
  | digits _ digits _ =>
    intro mem
    rcases List.mem_cons.mp mem with colon | mem
    · exact absurd colon (by decide)
    · exact absurd (digits _ mem) (by decide)

theorem readPort_nil (scheme : String) : readPort scheme [] = .ok none := by
  simp [readPort]

/-- The number of a port may be left out if it is the usual one. -/
theorem readPort_iff {scheme : String} {ds : List Char} {port : Nat} (some_digit : ds ≠ []) :
    (∃ p, readPort scheme ds = .ok p ∧ p.or (defaultPort? scheme) = some port) ↔
      (∀ c ∈ ds, c.isDigit = true) ∧ Nat.ofDigitChars 10 ds 0 ≤ 65535 ∧
        port = Nat.ofDigitChars 10 ds 0 := by
  unfold readPort
  split
  next other =>
    have wrong : ¬∀ c ∈ ds, c.isDigit = true := by simpa using other
    simp [wrong]
  next digits =>
    have all : ∀ c ∈ ds, c.isDigit = true := by simpa using digits
    have shown : ds.isEmpty = false := by simpa using some_digit
    simp only [shown, Bool.false_or, decide_eq_true_eq, iff_true_intro all, true_and]
    generalize Nat.ofDigitChars 10 ds 0 = n
    by_cases large : 65535 < n
    · simp [large, Nat.not_le.mpr large]
    · have bound : n ≤ 65535 := Nat.le_of_not_lt large
      by_cases usual : defaultPort? scheme = some n
      · simpa [large, usual, bound] using eq_comm
      · simpa [large, usual, bound] using eq_comm

theorem portText_iff {scheme : String} {tail : List Char} {port : Nat}
    (ends : tail = [] ∨ tail.head? = some ':') :
    PortText scheme tail port ↔
      ∃ p, readPort scheme (tail.drop 1) = .ok p ∧ p.or (defaultPort? scheme) = some port := by
  constructor
  · intro h
    cases h with
    | none usual => exact ⟨none, readPort_nil scheme, usual⟩
    | empty usual => exact ⟨none, readPort_nil scheme, usual⟩
    | digits some_digit digits bound => exact (readPort_iff some_digit).mpr ⟨digits, bound, rfl⟩
  · rintro ⟨p, read, usual⟩
    rcases ends with rfl | colon
    · cases (readPort_nil scheme).symm.trans read
      exact .none usual
    · obtain ⟨ds, rfl⟩ := List.head?_eq_some_iff.mp colon
      by_cases empty : ds = []
      · subst empty
        cases (readPort_nil scheme).symm.trans read
        exact .empty usual
      · obtain ⟨digits, bound, rfl⟩ := (readPort_iff empty).mp ⟨p, read, usual⟩
        exact .digits empty digits bound

theorem splitHost_eq (inside : Bool) (done cs : List Char) :
    splitHost inside done cs =
      (done.reverse ++ (splitHost inside [] cs).1, (splitHost inside [] cs).2) := by
  induction cs generalizing inside done with
  | nil => simp [splitHost]
  | cons c rest ih =>
    unfold splitHost
    split
    next => simp
    next =>
      rw [ih _ (c :: done), ih _ [c]]
      simp

theorem splitHost_cons (inside : Bool) (c : Char) (rest : List Char) :
    splitHost inside [] (c :: rest) =
      if c = ':' ∧ inside = false then ([], c :: rest)
      else (c :: (splitHost (opens inside c) [] rest).1, (splitHost (opens inside c) [] rest).2) := by
  rw [splitHost, splitHost_eq _ [c]]
  by_cases stop : c = ':' ∧ inside = false
  · simp [stop]
  · simp [stop, opens]

theorem closed_cons {inside : Bool} {c : Char} {name : List Char} :
    Closed inside (c :: name) ↔ (c = ':' → inside = true) ∧ Closed (opens inside c) name := by
  constructor
  · intro h
    refine ⟨fun eq => h [] name (by rw [eq]; rfl), fun front back eq => ?_⟩
    exact h (c :: front) back (by rw [eq]; rfl)
  · rintro ⟨first, later⟩ front back eq
    cases front with
    | nil => exact first (List.cons.inj eq).1
    | cons d front =>
      obtain ⟨rfl, behind⟩ := List.cons.inj eq
      exact later front back behind

/-- A name is taken up to the first colon outside brackets. -/
theorem parts_of_splitHost {inside : Bool} {cs name tail : List Char}
    (h : splitHost inside [] cs = (name, tail)) :
    cs = name ++ tail ∧ Closed inside name ∧
      (tail = [] ∨ tail.head? = some ':' ∧ name.foldl opens inside = false) := by
  -- Each character may open or close a bracket, so the induction is for both states.
  induction cs generalizing inside name with
  | nil =>
    obtain ⟨rfl, rfl⟩ := Prod.mk.inj h
    exact ⟨rfl, fun front back eq => by simp at eq, .inl rfl⟩
  | cons c rest ih =>
    rw [splitHost_cons] at h
    split at h
    next stop =>
      obtain ⟨rfl, rfl⟩ := stop
      obtain ⟨rfl, rfl⟩ := Prod.mk.inj h
      exact ⟨rfl, fun front back eq => by simp at eq, .inr ⟨rfl, rfl⟩⟩
    next go =>
      obtain ⟨rfl, rfl⟩ := Prod.mk.inj h
      obtain ⟨joined, closed, ends⟩ := ih rfl
      refine ⟨by rw [List.cons_append, ← joined], closed_cons.mpr ⟨?_, closed⟩, ends⟩
      intro colon
      simpa [colon] using go

theorem splitHost_append {inside : Bool} {name tail : List Char} (closed : Closed inside name)
    (ends : tail = [] ∨ tail.head? = some ':' ∧ name.foldl opens inside = false) :
    splitHost inside [] (name ++ tail) = (name, tail) := by
  induction name generalizing inside with
  | nil =>
    rcases ends with rfl | ⟨head, outside⟩
    · rfl
    · obtain ⟨back, rfl⟩ := List.head?_eq_some_iff.mp head
      simp only [List.foldl_nil] at outside
      rw [List.nil_append, splitHost_cons, if_pos ⟨rfl, outside⟩]
  | cons c name ih =>
    obtain ⟨first, later⟩ := closed_cons.mp closed
    have go : ¬(c = ':' ∧ inside = false) := by
      rintro ⟨colon, outside⟩
      exact absurd (outside ▸ first colon) Bool.false_ne_true
    rw [List.cons_append, splitHost_cons, if_neg go, ih later ends]

theorem PlaceText.ne_nil {scheme : String} {place : List Char} {host : Host} {port : Nat}
    (h : PlaceText scheme place host port) : place ≠ [] := by
  obtain ⟨_, _, _, _, names, _⟩ := h
  intro nothing
  obtain ⟨rfl, -⟩ := List.append_eq_nil_iff.mp (List.append_eq_nil_iff.mp nothing).2
  rw [readSpecial_nil] at names
  contradiction

theorem readAuthority_eq {scheme : String} {front name tail : List Char} (u : Url)
    (special : isSpecial scheme = true) (front_end : front = [] ∨ front.getLast? = some '@')
    (no_at : '@' ∉ name ++ tail) (closed : Closed false name)
    (ends : tail = [] ∨ tail.head? = some ':' ∧ name.foldl opens false = false)
    (forward : '\\' ∉ tail) :
    ∃ user password, (front = [] → user = "" ∧ password = none) ∧
      readAuthority scheme (front ++ (name ++ tail)) u =
        Host.readSpecial name >>= fun host => readPort scheme (tail.drop 1) >>= fun port =>
          .ok ({ u with user, password, host := some host, port }, []) := by
  have digits : (tail.drop 1).span (· != '\\') = (tail.drop 1, []) := by
    have pass : ∀ c ∈ tail.drop 1, (c != '\\') = true := by
      intro c mem
      have other : c ≠ '\\' := fun eq => forward (eq ▸ List.mem_of_mem_drop mem)
      simpa using other
    have nothing : ∀ c, ([] : List Char).head? = some c → (c != '\\') = false := by simp
    simpa using Text.span_append pass nothing
  simp only [readAuthority, Text.getLastD_splitOn front_end no_at, splitHost_append closed ends,
    digits, special, Bool.true_or, Bool.and_true, if_true]
  let written := readUser (['@'].intercalate ((front ++ (name ++ tail)).splitOn '@').dropLast)
  refine ⟨written.1, written.2, ?_, ?_⟩
  · rintro rfl
    have single : ([] ++ (name ++ tail)).splitOn '@' = [name ++ tail] :=
      List.splitOn_eq_singleton no_at
    simp only [written, single]
    exact ⟨rfl, rfl⟩
  -- An empty name is refused before it is read, in the way that reading it refuses it.
  split
  next empty =>
    obtain rfl := List.isEmpty_iff.mp empty
    rw [readSpecial_nil]
    rfl
  next => rfl

/-- Where requests to an address go. -/
structure Reaches (u : Url) (scheme : String) (host : Host) (port : Nat) : Prop where
  scheme_eq : u.scheme = scheme
  host_eq : u.host = some host
  port_eq : u.port.or (defaultPort? scheme) = some port

theorem Reaches.unique {u : Url} {scheme : String} {host host' : Host} {port port' : Nat}
    (h : u.Reaches scheme host port) (h' : u.Reaches scheme host' port') :
    host = host' ∧ port = port' :=
  ⟨Option.some.inj (h.host_eq.symm.trans h'.host_eq),
    Option.some.inj (h.port_eq.symm.trans h'.port_eq)⟩

theorem Reaches.congr {u v : Url} {scheme : String} {host : Host} {port : Nat}
    (same_scheme : u.scheme = v.scheme) (same_host : u.host = v.host)
    (same_port : u.port = v.port) : u.Reaches scheme host port ↔ v.Reaches scheme host port := by
  constructor
  · exact fun h => ⟨same_scheme ▸ h.scheme_eq, same_host ▸ h.host_eq, same_port ▸ h.port_eq⟩
  · exact fun h => ⟨same_scheme ▸ h.scheme_eq, same_host ▸ h.host_eq, same_port ▸ h.port_eq⟩

theorem isSpecial_of_port {scheme : String} {port : Nat} (usual : defaultPort? scheme = some port) :
    isSpecial scheme = true := by
  rw [isSpecial, usual, Option.isSome_some, Bool.or_true]

/-- An address that was read goes to the place that was written. -/
theorem readAuthority_sound {scheme : String} {place more : List Char} {u v : Url} {usual : Nat}
    (web : defaultPort? scheme = some usual) (same : u.scheme = scheme) (forward : '\\' ∉ place)
    (read : readAuthority scheme place u = .ok (v, more)) :
    more = [] ∧ ∃ host port, PlaceText scheme place host port ∧ v.Reaches scheme host port := by
  obtain ⟨front, last, rfl, front_end, free⟩ := Text.exists_lastPart '@' place
  obtain ⟨name, tail, split⟩ : ∃ name tail, splitHost false [] last = (name, tail) := ⟨_, _, rfl⟩
  obtain ⟨rfl, closed, ends⟩ := parts_of_splitHost split
  have straight : '\\' ∉ tail := by simp_all
  obtain ⟨user, password, -, eq⟩ :=
    readAuthority_eq u (isSpecial_of_port web) front_end free closed ends straight
  obtain ⟨host, named, eq⟩ := bind_eq_ok_iff.mp (eq.symm.trans read)
  obtain ⟨p, ported, eq⟩ := bind_eq_ok_iff.mp eq
  obtain ⟨rfl, rfl⟩ := Prod.mk.inj (Except.ok.inj eq)
  obtain ⟨port, found⟩ : ∃ port, p.or (defaultPort? scheme) = some port := by
    cases p with
    | none => exact ⟨usual, web⟩
    | some n => exact ⟨n, rfl⟩
  have suffix := (portText_iff (ends.imp id And.left)).mpr ⟨p, ported, found⟩
  exact ⟨rfl, host, port, .intro front_end free closed (ends.imp id And.right) named suffix,
    same, rfl, found⟩

/-- A place that is written is read. -/
theorem readAuthority_complete {scheme : String} {place : List Char} {u : Url} {host : Host}
    {port : Nat} (special : isSpecial scheme = true) (same : u.scheme = scheme)
    (forward : '\\' ∉ place) (written : PlaceText scheme place host port) :
    ∃ v, readAuthority scheme place u = .ok (v, []) ∧ v.Reaches scheme host port := by
  obtain @⟨front, name, tail, _, _, front_end, free, closed, outside, named, suffix⟩ := written
  have ends : tail = [] ∨ tail.head? = some ':' ∧ name.foldl opens false = false := by
    rcases suffix.head with empty | colon
    · exact .inl empty
    · exact outside.imp id fun shut => ⟨colon, shut⟩
  have straight : '\\' ∉ tail := by simp_all
  obtain ⟨user, password, -, eq⟩ :=
    readAuthority_eq u special front_end free closed ends straight
  obtain ⟨p, ported, found⟩ := (portText_iff suffix.head).mp suffix
  rw [named, ported] at eq
  exact ⟨_, eq, same, rfl, found⟩

/-- The characters before the path. -/
def placeOf (cs : List Char) : List Char :=
  cs.takeWhile fun c => !endsAuthority true c

theorem placeOf_append {place rest : List Char}
    (inside : ∀ c ∈ place, endsAuthority true c = false)
    (stop : ∀ c ∈ rest.head?, endsAuthority true c = true) : placeOf (place ++ rest) = place := by
  have pass : ∀ c ∈ place, (!endsAuthority true c) = true := by
    intro c mem
    rw [inside c mem, Bool.not_false]
  have cut := Text.span_append pass fun c mem => by rw [stop c mem, Bool.not_true]
  rw [List.span_eq_takeWhile_dropWhile] at cut
  exact (Prod.mk.inj cut).1

theorem parts_of_placeOf (cs : List Char) :
    ∃ rest, cs = placeOf cs ++ rest ∧ (∀ c ∈ placeOf cs, endsAuthority true c = false) ∧
      ∀ c ∈ rest.head?, endsAuthority true c = true := by
  have split := List.span_eq_takeWhile_dropWhile (p := fun c => !endsAuthority true c) (l := cs)
  obtain ⟨joined, pass, stop⟩ := Text.parts_of_span split
  refine ⟨_, joined, fun c mem => ?_, fun c mem => ?_⟩
  · simpa using pass c mem
  · simpa using stop c mem

theorem forward_placeOf (cs : List Char) : '\\' ∉ placeOf cs := by
  obtain ⟨_, _, inside, _⟩ := parts_of_placeOf cs
  exact fun mem => absurd (inside _ mem) (by decide)

theorem endsAuthority_of_isSlash {c : Char} (h : isSlash c = true) :
    endsAuthority true c = true := by
  have kinds : c = '/' ∨ c = '\\' := by simpa [isSlash] using h
  rcases kinds with rfl | rfl <;> rfl

theorem readAfterHost_reaches_iff {special : Bool} {cs : List Char} {u : Url} {scheme : String}
    {host : Host} {port : Nat} :
    (readAfterHost special cs u).Reaches scheme host port ↔ u.Reaches scheme host port :=
  Reaches.congr rfl rfl rfl

theorem readFromHost_sound {scheme : String} {cs : List Char} {u : Url} {usual : Nat}
    (web : defaultPort? scheme = some usual) (read : readFromHost scheme cs = .ok u) :
    ∃ host port, PlaceText scheme (placeOf cs) host port ∧ u.Reaches scheme host port := by
  unfold readFromHost at read
  rw [isSpecial_of_port web] at read
  obtain ⟨⟨v, more⟩, inner, rfl⟩ := map_eq_ok_iff.mp read
  obtain ⟨rfl, host, port, written, reaches⟩ :=
    readAuthority_sound web rfl (forward_placeOf cs) inner
  exact ⟨host, port, written, readAfterHost_reaches_iff.mpr reaches⟩

theorem readFromHost_complete {scheme : String} {cs : List Char} {host : Host} {port : Nat}
    (special : isSpecial scheme = true) (written : PlaceText scheme (placeOf cs) host port) :
    ∃ u, readFromHost scheme cs = .ok u ∧ u.Reaches scheme host port := by
  obtain ⟨v, inner, reaches⟩ := readAuthority_complete
    (u := { scheme, path := .segments [] }) special rfl (forward_placeOf cs) written
  let rest := cs.dropWhile fun c => !endsAuthority true c
  refine ⟨readAfterHost true rest v, ?_, readAfterHost_reaches_iff.mpr reaches⟩
  unfold readFromHost
  rw [special]
  exact congrArg (Except.map _) inner

theorem foldl_opens_plain {name : List Char} (plain : ∀ c ∈ name, isPlain c = true) :
    name.foldl opens false = false := by
  induction name with
  | nil => rfl
  | cons c name ih =>
    obtain ⟨first, later⟩ := List.forall_mem_cons.mp plain
    have shut : opens false c = false :=
      forall_isPlain (P := fun c => opens false c = false) (by decide) first
    rw [List.foldl_cons, shut, ih later]

theorem closed_plain {name : List Char} (plain : ∀ c ∈ name, isPlain c = true) :
    Closed false name := by
  rintro front back rfl
  exact absurd (plain ':' (by simp)) (by decide)

theorem PortText.no_at_append {scheme : String} {name tail : List Char} {port : Nat}
    (suffix : PortText scheme tail port) (plain : ∀ c ∈ name, isPlain c = true) :
    '@' ∉ name ++ tail := by
  intro mem
  rcases List.mem_append.mp mem with mem | mem
  · exact absurd (plain _ mem) (by decide)
  · exact suffix.no_at mem

/-- A plain name with a port is a place. -/
theorem placeText_plain {scheme : String} {name tail : List Char} {port : Nat}
    (some_char : name ≠ []) (plain : ∀ c ∈ name, isPlain c = true)
    (no_code : ((name.map Char.toLower).splitOn '.').any isEncoded = false)
    (no_number : Host.endsInNumber (name.map Char.toLower) = false)
    (suffix : PortText scheme tail port) :
    PlaceText scheme (name ++ tail) (.name (String.ofList (name.map Char.toLower))) port := by
  have named := readSpecial_plain plain no_code
  rw [if_neg (by simpa using some_char), if_neg (by simp [no_number])] at named
  exact .intro (.inl rfl) (suffix.no_at_append plain) (closed_plain plain)
    (.inr (foldl_opens_plain plain)) named suffix

/-- Whether a character counts: tabs and line breaks do not. -/
def counts (c : Char) : Bool :=
  c != '\t' && c != '\n' && c != '\r'

/-- The characters that count. -/
def spoken (cs : List Char) : List Char :=
  cs.filter counts

theorem clean_eq {cs : List Char} (front : ∀ c ∈ cs.head?, ' ' < c)
    (back : ∀ c ∈ cs.getLast?, ' ' < c) : clean cs = spoken cs := by
  have kept : cs.dropWhile (fun c => decide (c ≤ ' ')) = cs := by
    refine List.dropWhile_eq_self_iff.mpr fun nonempty => ?_
    have first := front cs[0] (by simp [List.head?_eq_getElem?, nonempty])
    simpa using first
  have ends : ∀ c ∈ cs.getLast?, decide (c ≤ ' ') = false := by
    intro c mem
    simpa using back c mem
  rw [clean, kept, Text.dropTrailing_eq_self ends]
  rfl

theorem counts_of_endsAuthority {c : Char} (h : endsAuthority true c = true) :
    counts c = true := by
  have kinds : ((c = '/' ∨ c = '?') ∨ c = '#') ∨ c = '\\' := by simpa [endsAuthority] using h
  rcases kinds with ((rfl | rfl) | rfl) | rfl <;> rfl

theorem endsAuthority_head_spoken {cs : List Char}
    (stop : ∀ c ∈ cs.head?, endsAuthority true c = true) :
    ∀ c ∈ (spoken cs).head?, endsAuthority true c = true := by
  cases cs with
  | nil => simp [spoken]
  | cons c rest =>
    rw [spoken, List.filter_cons_of_pos (counts_of_endsAuthority (stop c rfl))]
    exact stop

end TelemetryRelay.Url
