import TelemetryRelay.Delivery.Client
import TelemetryRelay.Proofs.Settings.Rules
import TelemetryRelay.Proofs.Url.Authority

namespace TelemetryRelay

/-- The schemes of the web. -/
def IsWeb (scheme : String) : Prop :=
  scheme = "http" ∨ scheme = "https"

theorem exists_scheme {url : String} (h : Settings.isWebAddress url = true) :
    ∃ scheme rest, IsWeb scheme ∧ url.toList = scheme.toList ++ ':' :: '/' :: '/' :: rest := by
  obtain ⟨rest, rfl | rfl⟩ := Settings.isWebAddress_iff.mp h
  · exact ⟨"http", rest.toList, .inl rfl, by simp⟩
  · exact ⟨"https", rest.toList, .inr rfl, by simp⟩

namespace IsWeb
variable {scheme : String} (web : IsWeb scheme)
include web

theorem exists_port : ∃ port, Url.defaultPort? scheme = some port := by
  rcases web with rfl | rfl
  · exact ⟨80, rfl⟩
  · exact ⟨443, rfl⟩

theorem isSpecial : Url.isSpecial scheme = true :=
  Url.isSpecial_of_port web.exists_port.choose_spec

theorem ne_file : scheme ≠ "file" := by
  rcases web with rfl | rfl <;> decide

theorem spoken (cs : List Char) :
    Url.spoken (scheme.toList ++ ':' :: cs) = scheme.toList ++ ':' :: Url.spoken cs := by
  rcases web with rfl | rfl <;> rfl

theorem head (cs : List Char) : ∀ c ∈ (scheme.toList ++ cs).head?, ' ' < c := by
  rcases web with rfl | rfl <;> simp

theorem readScheme? (cs : List Char) :
    Url.readScheme? (scheme.toList ++ ':' :: cs) = some (scheme, cs) := by
  rcases web with rfl | rfl <;> rfl

/-- What is read after the scheme is the host, behind any number of slashes. -/
theorem read {text : String} {cs : List Char} (eq : text.toList = scheme.toList ++ ':' :: cs)
    (back : ∀ c ∈ text.toList.getLast?, ' ' < c) :
    Url.read text = Url.readFromHost scheme ((Url.spoken cs).dropWhile Url.isSlash) := by
  have front : ∀ c ∈ text.toList.head?, ' ' < c := eq ▸ web.head _
  rw [Url.read, Url.clean_eq front back, eq, web.spoken, web.readScheme?]
  simp only [web.ne_file, web.isSpecial, if_true, if_false]

end IsWeb

namespace Endpoint

/-- What stands after the colon of the scheme in the address that is read. -/
def afterColon (rest : List Char) : List Char :=
  Text.dropTrailing (· == '/') ('/' :: '/' :: rest) ++ servicePath.toList

/-- The place that is written right after the two slashes. -/
def writtenPlace (rest : List Char) : List Char :=
  Url.spoken (Url.placeOf rest)

/-- The place that is found: the first one after any number of slashes. -/
def foundPlace (rest : List Char) : List Char :=
  Url.placeOf ((Url.spoken (afterColon rest)).dropWhile Url.isSlash)

theorem address_toList {base scheme : String} {rest : List Char}
    (eq : base.toList = scheme.toList ++ ':' :: '/' :: '/' :: rest) :
    (address base).toList = scheme.toList ++ ':' :: afterColon rest := by
  have kept : ∀ c ∈ (scheme.toList ++ [':']).getLast?, (c == '/') = false := by simp
  have cut := Text.dropTrailing_append kept ('/' :: '/' :: rest)
  rw [List.append_assoc, List.singleton_append, ← eq] at cut
  rw [address, String.toList_append, String.toList_ofList, cut, afterColon]
  simp

theorem afterColon_eq {rest : List Char} (named : Url.placeOf rest ≠ []) :
    ∃ next, afterColon rest = '/' :: '/' :: (Url.placeOf rest ++ next) ∧
      ∀ c ∈ next.head?, Url.endsAuthority true c = true := by
  -- No slash is in the place, so that those which are dropped at the end stand behind it.
  obtain ⟨tail, parts, inside, stop⟩ := Url.parts_of_placeOf rest
  have last : ∀ c ∈ ('/' :: '/' :: Url.placeOf rest).getLast?, (c == '/') = false := by
    rw [List.getLast?_cons_of_ne_nil (List.cons_ne_nil _ _), List.getLast?_cons_of_ne_nil named]
    intro c mem
    have inner := inside c (List.mem_of_getLast? mem)
    rw [beq_eq_false_iff_ne]
    rintro rfl
    exact absurd inner (by decide)
  have cut := Text.dropTrailing_append last tail
  rw [List.cons_append, List.cons_append, ← parts] at cut
  have service : servicePath.toList.head? = some '/' := by decide
  refine ⟨Text.dropTrailing (· == '/') tail ++ servicePath.toList, ?_,
    Text.head?_dropTrailing_append stop (by simp [service, Url.endsAuthority])⟩
  rw [afterColon, cut]
  simp

/-- Where a place is written, it is found. -/
theorem foundPlace_eq {rest : List Char} (named : writtenPlace rest ≠ []) :
    foundPlace rest = writtenPlace rest := by
  have some_place : Url.placeOf rest ≠ [] := by
    intro nothing
    rw [writtenPlace, nothing] at named
    exact named rfl
  obtain ⟨next, behind, stop⟩ := afterColon_eq some_place
  obtain ⟨_, _, inside, _⟩ := Url.parts_of_placeOf rest
  have counted : ∀ c ∈ writtenPlace rest, Url.endsAuthority true c = false :=
    fun c mem => inside c (List.mem_of_mem_filter mem)
  have heard : Url.spoken (afterColon rest) =
      '/' :: '/' :: (writtenPlace rest ++ Url.spoken next) := by
    rw [behind, writtenPlace, Url.spoken, Url.spoken, Url.spoken, ← List.filter_append]
    rfl
  -- Here a place has to be written: otherwise the slashes of `next` are skipped as well.
  have begins : (writtenPlace rest ++ Url.spoken next).dropWhile Url.isSlash =
      writtenPlace rest ++ Url.spoken next := by
    obtain ⟨c, more, eq⟩ := List.exists_cons_of_ne_nil named
    have dark : Url.isSlash c ≠ true := by
      intro slash
      have ends := Url.endsAuthority_of_isSlash slash
      exact absurd ((counted c (by simp [eq])).symm.trans ends) Bool.false_ne_true
    rw [eq, List.cons_append, List.dropWhile_cons_of_neg dark]
  rw [foundPlace, heard, List.dropWhile_cons_of_pos rfl, List.dropWhile_cons_of_pos rfl, begins]
  exact Url.placeOf_append counted (Url.endsAuthority_head_spoken stop)

theorem addPairs_reaches_iff {pairs : List Char} {u : Url} {scheme : String} {host : Host}
    {port : Nat} :
    (u.addPairs pairs).Reaches scheme host port ↔ u.Reaches scheme host port := by
  unfold Url.addPairs
  split <;> exact Url.Reaches.congr rfl rfl rfl

section Base
variable {scheme base : String} {rest : List Char} (web : IsWeb scheme)
variable (eq : base.toList = scheme.toList ++ ':' :: '/' :: '/' :: rest)
include web eq

theorem read_address : Url.read (address base) =
    Url.readFromHost scheme ((Url.spoken (afterColon rest)).dropWhile Url.isSlash) := by
  refine web.read (address_toList eq) ?_
  have last : servicePath.toList.getLast? = some 'e' := by decide
  rw [address, String.toList_append, List.getLast?_append, last]
  simp

/-- An address that is made goes to the place that is found. -/
theorem writeUrl_sound {org bucket : String} {u : Url} (made : writeUrl base org bucket = .ok u) :
    ∃ host port, Url.PlaceText scheme (foundPlace rest) host port ∧
      u.Reaches scheme host port := by
  obtain ⟨usual, known⟩ := web.exists_port
  unfold writeUrl at made
  rw [read_address web eq] at made
  split at made
  next v read =>
    cases Except.ok.inj made
    obtain ⟨host, port, written, reaches⟩ := Url.readFromHost_sound known read
    exact ⟨host, port, written, addPairs_reaches_iff.mpr reaches⟩
  next => contradiction

theorem writeUrl_complete {org bucket : String} {host : Host} {port : Nat}
    (written : Url.PlaceText scheme (foundPlace rest) host port) :
    ∃ u, writeUrl base org bucket = .ok u ∧ u.Reaches scheme host port := by
  obtain ⟨u, read, reaches⟩ := Url.readFromHost_complete web.isSpecial written
  refine ⟨u.addPairs (Form.encode (parameters org bucket)), ?_, addPairs_reaches_iff.mpr reaches⟩
  rw [writeUrl, read_address web eq, read]

end Base
end Endpoint

namespace Client

theorem ofSettings_eq_ok_iff {s : DatabaseSettings} {c : Client} :
    ofSettings s = .ok c ↔
      Endpoint.writeUrl s.url s.org s.bucket = .ok c.url ∧
        s.token.toList.any isForbidden = false ∧ c.token = s.token := by
  obtain ⟨url, token⟩ := c
  unfold ofSettings
  -- Nothing is to be computed of the address here.
  generalize Endpoint.writeUrl s.url s.org s.bucket = made
  generalize s.token.toList.any isForbidden = bad
  cases made <;> cases bad <;> simp [bind, Except.bind, pure, Except.pure, eq_comm]

theorem requestUrl_reaches_iff {c : Client} {scheme : String} {host : Host} {port : Nat} :
    c.requestUrl.Reaches scheme host port ↔ c.url.Reaches scheme host port := by
  unfold requestUrl
  split <;> exact Url.Reaches.congr rfl rfl rfl

/-- Requests go to the place that is found in the accepted address. That is the place which is
written between the two slashes and the path, wherever one is. -/
theorem requests_reach_place {s : Settings} (accepted : s.validate = .ok ()) :
    ∃ scheme rest, IsWeb scheme ∧
      s.database.url.toList = scheme.toList ++ ':' :: '/' :: '/' :: rest ∧
      ((∃ c, ofSettings s.database = .ok c) ↔
        (∃ host port, Url.PlaceText scheme (Endpoint.foundPlace rest) host port) ∧
          s.database.token.toList.any isForbidden = false) ∧
      ∀ c, ofSettings s.database = .ok c →
        (∀ host port, c.requestUrl.Reaches scheme host port ↔ c.url.Reaches scheme host port) ∧
        (∀ host port, c.url.Reaches scheme host port ↔
          Url.PlaceText scheme (Endpoint.foundPlace rest) host port) ∧
        ((∃ host port, Url.PlaceText scheme (Endpoint.writtenPlace rest) host port ∧
          c.url.Reaches scheme host port) ↔ Endpoint.writtenPlace rest ≠ []) := by
  obtain ⟨scheme, rest, web, eq⟩ := exists_scheme (Settings.isWebAddress_of_validate accepted)
  refine ⟨scheme, rest, web, eq, ?_, fun c made => ?_⟩
  · constructor
    · rintro ⟨c, made⟩
      obtain ⟨address, allowed, -⟩ := ofSettings_eq_ok_iff.mp made
      obtain ⟨host, port, written, -⟩ := Endpoint.writeUrl_sound web eq address
      exact ⟨⟨host, port, written⟩, allowed⟩
    · rintro ⟨⟨host, port, written⟩, allowed⟩
      obtain ⟨url, address, -⟩ := Endpoint.writeUrl_complete web eq written
      exact ⟨⟨url, s.database.token⟩, ofSettings_eq_ok_iff.mpr ⟨address, allowed, rfl⟩⟩
  · obtain ⟨address, -, -⟩ := ofSettings_eq_ok_iff.mp made
    obtain ⟨host, port, found, reaches⟩ := Endpoint.writeUrl_sound web eq address
    refine ⟨fun _ _ => requestUrl_reaches_iff,
      fun host' port' => ⟨fun other => ?_, fun other => ?_⟩, ?_, ?_⟩
    · obtain ⟨rfl, rfl⟩ := reaches.unique other
      exact found
    · obtain ⟨url, again, there⟩ := Endpoint.writeUrl_complete web eq other
      exact Except.ok.inj (again.symm.trans address) ▸ there
    · rintro ⟨_, _, written, -⟩
      exact written.ne_nil
    · intro named
      exact ⟨host, port, Endpoint.foundPlace_eq named ▸ found, reaches⟩

/-- A host in capital letters, with the usual port. -/
def capitalStation : Settings where
  database :=
    { url := "https://Influx.Example:443/base//", org := "o", bucket := "b", token := "t" }

theorem capitalStation_reaches :
    capitalStation.validate = .ok () ∧ ∃ c, ofSettings capitalStation.database = .ok c ∧
      c.url.Reaches "https" (.name "influx.example") 443 ∧
      c.requestUrl.Reaches "https" (.name "influx.example") 443 := by
  have accepted : capitalStation.validate = .ok () := by decide +kernel
  obtain ⟨scheme, rest, web, eq, built, goes⟩ := requests_reach_place accepted
  obtain ⟨rfl, rfl⟩ : scheme = "https" ∧ rest = "Influx.Example:443/base//".toList := by
    rcases web with rfl | rfl
    · have letter : some 's' = some ':' := congrArg (fun cs => cs[4]?) eq
      exact absurd letter (by decide)
    · have text : "https".toList ++ ':' :: '/' :: '/' :: "Influx.Example:443/base//".toList =
          "https".toList ++ ':' :: '/' :: '/' :: rest := eq
      simpa using (List.append_cancel_left text).symm
  have place : Url.PlaceText "https" (Endpoint.foundPlace "Influx.Example:443/base//".toList)
      (.name "influx.example") 443 := by
    have found : Endpoint.foundPlace "Influx.Example:443/base//".toList =
        "Influx.Example".toList ++ ":443".toList := by decide
    rw [found]
    have plain : ∀ c ∈ "Influx.Example".toList, Url.isPlain c = true :=
      List.all_eq_true.mp (by decide)
    have digits : ∀ c ∈ "443".toList, c.isDigit = true := List.all_eq_true.mp (by decide)
    exact Url.placeText_plain (by decide) plain (by decide) (by decide)
      (.digits (by decide) digits (by decide))
  obtain ⟨c, made⟩ := built.mpr ⟨⟨_, _, place⟩, by decide⟩
  obtain ⟨same, reaches, -⟩ := goes c made
  exact ⟨accepted, c, made, (reaches _ _).mpr place, (same _ _).mpr ((reaches _ _).mpr place)⟩

/-- Two slashes and no host. -/
def hostlessStation : Settings where
  database := { url := "http://", org := "o", bucket := "b", token := "t" }

/-- Without a host, requests go to the first name in the path of the write service. -/
theorem hostlessStation_reaches_api :
    hostlessStation.validate = .ok () ∧ hostlessStation.database.url = "http://" ∧
      Endpoint.writtenPlace [] = [] ∧
      (∀ host port, ¬ Url.PlaceText "http" (Endpoint.writtenPlace []) host port) ∧
      ∃ c, ofSettings hostlessStation.database = .ok c ∧
        c.url.Reaches "http" (.name "api") 80 := by
  have place : Url.PlaceText "http" (Endpoint.foundPlace []) (.name "api") 80 := by
    have found : Endpoint.foundPlace [] = "api".toList ++ [] := by decide
    rw [found]
    have plain : ∀ c ∈ "api".toList, Url.isPlain c = true := List.all_eq_true.mp (by decide)
    exact Url.placeText_plain (by decide) plain (by decide) (by decide) (.none rfl)
  have eq : "http://".toList = "http".toList ++ ':' :: '/' :: '/' :: [] := rfl
  obtain ⟨url, made, reaches⟩ := Endpoint.writeUrl_complete (.inl rfl) eq place
  exact ⟨by decide +kernel, rfl, rfl, fun _ _ written => written.ne_nil rfl, ⟨url, "t"⟩,
    ofSettings_eq_ok_iff.mpr ⟨made, by decide, rfl⟩, reaches⟩

end Client
end TelemetryRelay
