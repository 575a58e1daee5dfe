import TelemetryRelay.Proofs.Delivery.Destination
import TelemetryRelay.Proofs.Url.Form
import TelemetryRelay.Proofs.Url.Path

namespace TelemetryRelay

/-- A text made of plain parts is read as these parts. -/
theorem IsWeb.read_plain {scheme text : String} {name tail : List Char} {p : Option Nat}
    {names : List (List Char)} {query : Option (List Char)} (web : IsWeb scheme)
    (plain : Url.ArePlain scheme name tail p names query)
    (eq : text.toList = scheme.toList ++ ':' :: '/' :: '/' :: Url.plainText name tail names query) :
    Url.read text = .ok (Url.plainUrl scheme name p names query) := by
  obtain ⟨c, rest, begins⟩ := List.exists_cons_of_ne_nil plain.host.ne_nil
  have front : Url.isSlash c ≠ true := by
    intro slash
    have quiet := plain.host.isQuiet c (begins ▸ List.mem_cons_self)
    have ends := (Url.isInert_of_isQuiet quiet).place
    exact Bool.false_ne_true (ends.symm.trans (Url.endsAuthority_of_isSlash slash))
  have filled : Url.plainText name tail names query ≠ [] := by simp [Url.plainText, begins]
  have back : ∀ c ∈ text.toList.getLast?, ' ' < c := by
    have split : text.toList = scheme.toList ++ [':', '/', '/'] ++
        Url.plainText name tail names query := by simp [eq]
    rw [split, List.getLast?_append_of_ne_nil _ filled]
    exact fun c mem => (plain.heard c (List.mem_of_getLast? mem)).1
  have heard : Url.spoken ('/' :: '/' :: Url.plainText name tail names query) =
      '/' :: '/' :: Url.plainText name tail names query := by
    refine List.filter_eq_self.mpr ?_
    exact List.forall_mem_cons.mpr ⟨rfl, List.forall_mem_cons.mpr
      ⟨rfl, fun c mem => (plain.heard c mem).2⟩⟩
  have kept : (Url.plainText name tail names query).dropWhile Url.isSlash =
      Url.plainText name tail names query := by
    rw [Url.plainText, begins, List.cons_append, List.cons_append,
      List.dropWhile_cons_of_neg front]
  rw [web.read eq back, heard, List.dropWhile_cons_of_pos rfl, List.dropWhile_cons_of_pos rfl, kept,
    plain.readFromHost web.isSpecial]

namespace Endpoint

/-- A base address in plain form: a scheme of the web, a plain host name, perhaps a port, and plain
names in the path. Any number of slashes may follow. -/
structure IsPlainBase (base scheme : String) (name : List Char) (port : Nat)
    (path : List (List Char)) : Prop where
  web : IsWeb scheme
  host : Url.IsPlainName name
  segments : ∀ segment ∈ path, Url.IsPlainSegment segment
  written : ∃ tail slashes, Url.PortText scheme tail port ∧
    base.toList = scheme.toList ++ ':' :: '/' :: '/' ::
      (name ++ tail ++ Url.pathText path ++ List.replicate slashes '/')

/-- The names in the path of the write service. -/
def serviceNames : List (List Char) :=
  ["api".toList, "v2".toList, "write".toList]

theorem pathText_serviceNames (path : List (List Char)) :
    Url.pathText (path ++ serviceNames) = Url.pathText path ++ servicePath.toList := by
  have service : Url.pathText serviceNames = servicePath.toList := by decide
  rw [← service]
  exact List.flatMap_append

theorem plain_serviceNames : ∀ name ∈ serviceNames, Url.IsPlainSegment name :=
  Url.plain_of_all (by decide)

/-- The last character of a path is one of its last name. -/
theorem getLast?_pathText {path : List (List Char)}
    (plain : ∀ segment ∈ path, Url.IsPlainSegment segment) :
    ∀ c ∈ (Url.pathText path).getLast?, c ≠ '/' := by
  rcases List.eq_nil_or_concat' path with rfl | ⟨front, last, rfl⟩
  · simp [Url.pathText]
  · have segment := plain last (by simp)
    have split : Url.pathText (front ++ [last]) = Url.pathText front ++ ['/'] ++ last := by
      simp [Url.pathText]
    rw [split, List.getLast?_append_of_ne_nil _ segment.ne_nil]
    rintro c mem rfl
    exact segment.no_slash (List.mem_of_getLast? mem)

/-- The slashes at the end give way to the path of the write service. -/
theorem afterColon_plain {name tail : List Char} {path : List (List Char)}
    (filled : name ++ tail ≠ []) (no_slash : '/' ∉ name ++ tail)
    (plain : ∀ segment ∈ path, Url.IsPlainSegment segment) (slashes : Nat) :
    afterColon (name ++ tail ++ Url.pathText path ++ List.replicate slashes '/') =
      '/' :: '/' :: Url.plainText name tail (path ++ serviceNames) none := by
  let body := name ++ tail ++ Url.pathText path
  have some_char : body ≠ [] := by
    intro nothing
    exact filled (List.append_eq_nil_iff.mp nothing).1
  have ends : ∀ c ∈ ('/' :: '/' :: body).getLast?, (c == '/') = false := by
    rw [List.getLast?_cons_of_ne_nil (List.cons_ne_nil _ _),
      List.getLast?_cons_of_ne_nil some_char, List.getLast?_append]
    intro c mem
    rw [beq_eq_false_iff_ne]
    rcases Option.or_eq_some_iff.mp mem with last | ⟨-, last⟩
    · exact getLast?_pathText plain c last
    · rintro rfl
      exact no_slash (List.mem_of_getLast? last)
  have gone : Text.dropTrailing (· == '/') (List.replicate slashes '/') = [] := by
    simp [Text.dropTrailing]
  have cut := Text.dropTrailing_append ends (List.replicate slashes '/')
  rw [gone, List.append_nil] at cut
  rw [afterColon, ← List.cons_append, ← List.cons_append, cut, Url.plainText,
    pathText_serviceNames]
  simp [body, Url.queryText]

/-- What is made of the base address is made of plain parts. -/
theorem IsPlainBase.address {base scheme : String} {name : List Char} {port : Nat}
    {path : List (List Char)} (plain : IsPlainBase base scheme name port path) :
    ∃ tail p, p.or (Url.defaultPort? scheme) = some port ∧
      Url.ArePlain scheme name tail p (path ++ serviceNames) none ∧
      (address base).toList = scheme.toList ++ ':' :: '/' :: '/' ::
        Url.plainText name tail (path ++ serviceNames) none := by
  obtain ⟨tail, slashes, suffix, eq⟩ := plain.written
  obtain ⟨p, ported, found⟩ := (Url.portText_iff suffix.head).mp suffix
  have parts : Url.ArePlain scheme name tail p (path ++ serviceNames) none :=
    { host := plain.host
      suffix := ⟨port, suffix⟩
      ported
      some_name := List.append_ne_nil_of_right_ne_nil _ (List.cons_ne_nil _ _)
      names := List.forall_mem_append.mpr ⟨plain.segments, plain_serviceNames⟩
      query := by simp }
  refine ⟨tail, p, found, parts, ?_⟩
  have filled : name ++ tail ≠ [] := List.append_ne_nil_of_left_ne_nil plain.host.ne_nil _
  have no_slash : '/' ∉ name ++ tail := fun mem => absurd (parts.quiet_place _ mem) (by decide)
  rw [address_toList eq, afterColon_plain filled no_slash plain.segments]

/-- The organisation and the bucket are values in the query, whatever text they are. The scheme, the
host, the port and the path are those of the base address, there is no user and no fragment, and the
text of the address is read as the same address. -/
theorem writeUrl_keeps_base {base scheme : String} {name : List Char} {port : Nat}
    {path : List (List Char)} (plain : IsPlainBase base scheme name port path)
    (org bucket : String) :
    ∃ u query, writeUrl base org bucket = .ok u ∧
      u.Reaches scheme (.name (String.ofList name)) port ∧ u.user = "" ∧ u.password = none ∧
      u.path = .segments (path.map String.ofList ++ ["api", "v2", "write"]) ∧
      Url.renderPath u.path = String.ofList (Url.pathText path) ++ "/api/v2/write" ∧
      u.query = some query ∧
      Form.decode query.toList = [("org", org), ("bucket", bucket), ("precision", "s")] ∧
      u.fragment = none ∧ Url.read u.render = .ok u := by
  obtain ⟨tail, p, found, parts, eq⟩ := plain.address
  let pairs := Form.encode (parameters org bucket)
  let u := Url.plainUrl scheme name p (path ++ serviceNames) (some pairs)
  have made : writeUrl base org bucket = .ok u := by
    rw [writeUrl, plain.web.read_plain parts eq]
    rfl
  have query : ∀ q ∈ some pairs, ∀ c ∈ q, Url.isQuiet c = true := by
    rintro q mem
    cases mem
    exact Form.isQuiet_encode _
  have again : Url.read u.render = .ok u :=
    plain.web.read_plain { parts.rendered with query } Url.render_plainUrl
  refine ⟨u, String.ofList pairs, made, ⟨rfl, rfl, found⟩, rfl, rfl, ?_, ?_, rfl, ?_, rfl, again⟩
  · simp [u, Url.plainUrl, serviceNames]
  · have written : (Url.renderPath u.path).toList = Url.pathText path ++ servicePath.toList :=
      (Url.renderPath_segments _).trans (pathText_serviceNames path)
    apply String.toList_inj.mp
    rw [written, String.toList_append, String.toList_ofList]
    rfl
  · rw [String.toList_ofList]
    exact Form.decode_encode _

/-- A base address with a port of its own, two names in the path and two slashes at the end. -/
def portedBase : String :=
  "https://influx.example:8443/db-1/x_y//"

def portedPath : List (List Char) :=
  ["db-1".toList, "x_y".toList]

theorem portedBase_keeps :
    IsPlainBase portedBase "https" "influx.example".toList 8443 portedPath ∧
    ∃ u query, writeUrl portedBase "a&org=b#c" "%41 \u00e9\n" = .ok u ∧
      u.Reaches "https" (.name (String.ofList "influx.example".toList)) 8443 ∧ u.user = "" ∧
      u.password = none ∧
      u.path = .segments (portedPath.map String.ofList ++ ["api", "v2", "write"]) ∧
      Url.renderPath u.path = String.ofList (Url.pathText portedPath) ++ "/api/v2/write" ∧
      u.query = some query ∧
      Form.decode query.toList =
        [("org", "a&org=b#c"), ("bucket", "%41 \u00e9\n"), ("precision", "s")] ∧
      u.fragment = none ∧ Url.read u.render = .ok u := by
  have host : Url.IsPlainName "influx.example".toList :=
    { ne_nil := by decide
      chars := List.all_eq_true.mp (by decide)
      no_code := by decide
      no_number := fun numbered => absurd (Host.endsInNumber_iff.mpr numbered) (by decide) }
  have digits : ∀ c ∈ "8443".toList, c.isDigit = true := List.all_eq_true.mp (by decide)
  have plain : IsPlainBase portedBase "https" "influx.example".toList 8443 portedPath :=
    { web := .inr rfl
      host
      segments := Url.plain_of_all (by decide)
      written := ⟨":8443".toList, 2, .digits (by decide) digits (by decide), by decide⟩ }
  exact ⟨plain, writeUrl_keeps_base plain _ _⟩

example : Form.encode (parameters "a&org=b#c" "%41 \u00e9\n") =
    "org=a%26org%3Db%23c&bucket=%2541+%C3%A9%0A&precision=s".toList := by
  decide +kernel

end Endpoint
end TelemetryRelay
