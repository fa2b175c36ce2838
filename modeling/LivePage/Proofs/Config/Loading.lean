import LivePage.Config.Load
import LivePage.Proofs.Config.PageAttributes
import LivePage.Proofs.Config.References

/-!
# What is loaded

A configuration is put together from what a file sets, or the defaults where it sets nothing,
from the variables that its host and its endpoint refer to, and from the command line.  It is
loaded just if the references can be put in and the outcome is acceptable.  So a value of the
file is looked at only where the command line does not replace it, but its references always.
-/

namespace LivePage

/-- What a backoff must be like. -/
def Reconnect.IsAcceptable : Reconnect → Prop
  | .backoff initial greatest factor _ =>
    factor.isFinite = true ∧ Binary64.le 1 factor = true ∧ initial ≤ greatest
  | _ => True

namespace Config

open Reference Toml

/-! ## Acceptable configurations -/

/-- Whether a text is a path from the root of a server. -/
def IsPath (s : String) : Prop :=
  ∃ path, s = "/" ++ path

theorem isAbsolute_iff {s : String} : isAbsolute s = true ↔ IsPath s := by
  rw [isAbsolute, decide_eq_true_iff, List.head?_eq_some_iff]
  constructor
  · rintro ⟨path, hpath⟩
    refine ⟨String.ofList path, ?_⟩
    simp [← String.toList_inj, hpath]
  · rintro ⟨path, rfl⟩
    exact ⟨path.toList, String.toList_append⟩

theorem IsPath.ne_empty {s : String} (h : IsPath s) : s ≠ "" := by
  obtain ⟨path, rfl⟩ := h
  simp

/-- What a configuration must be like, whatever it was put together from. -/
structure IsAcceptable (c : Config) : Prop where
  host : c.server.host ≠ ""
  port : c.server.port ≠ 0
  width : c.sidebar.width.isFinite = true ∧ Binary64.lt 0 c.sidebar.width = true
  endpoint : IsPath c.stream.endpoint
  reconnect : c.stream.reconnect.IsAcceptable

theorem reconnectChecks_iff {r : Reconnect} :
    (∀ check ∈ reconnectChecks r, check.1 = false) ↔ r.IsAcceptable := by
  cases r with
  | never => simp [reconnectChecks, Reconnect.IsAcceptable]
  | fixed delay maxAttempts => simp [reconnectChecks, Reconnect.IsAcceptable]
  | backoff initial greatest factor maxAttempts =>
      simp [reconnectChecks, Reconnect.IsAcceptable, isFactor, and_assoc]

theorem objection?_eq_none_iff_isAcceptable {c : Config} :
    c.objection? = none ↔ c.IsAcceptable := by
  rw [objection?_eq_none_iff]
  simp only [checks, serverChecks, sidebarChecks, streamChecks, List.forall_mem_append,
    List.forall_mem_cons, List.not_mem_nil, IsEmpty.forall_iff, implies_true, and_true,
    reconnectChecks_iff, isAbsolute_iff, Page.Options.isWidth, Bool.not_eq_false',
    Bool.and_eq_true, decide_eq_false_iff_not]
  constructor
  · rintro ⟨⟨⟨hhost, hport⟩, hwidth⟩, -, hendpoint, hreconnect⟩
    exact ⟨hhost, hport, hwidth, hendpoint, hreconnect⟩
  · rintro ⟨hhost, hport, hwidth, hendpoint, hreconnect⟩
    exact ⟨⟨⟨hhost, hport⟩, hwidth⟩, hendpoint.ne_empty, hendpoint, hreconnect⟩

/-! ## References -/

/-- Whether every variable that a setting refers to has a text or a stand-in.  A setting without
an opening brace refers to none. -/
def IsExpandable (e : Environment) (value : String) : Prop :=
  hasBrace value.toList = true → AllGiven e (pieces value.toList)

/-- What a setting stands for. -/
def expanded (e : Environment) (value : String) : String :=
  if hasBrace value.toList then String.ofList ((pieces value.toList).flatMap (Piece.given e))
  else value

theorem expandSetting_eq_ok_iff_expanded {e : Environment} {setting value s : String} :
    expandSetting e setting value = .ok s ↔ IsExpandable e value ∧ s = expanded e value := by
  rw [expandSetting_eq_ok_iff]
  cases hbrace : hasBrace value.toList with
  | true =>
      simp only [expand_of_hasBrace hbrace, resolveAll_eq_ok_iff, IsExpandable, expanded, hbrace,
        if_true, true_imp_iff]
      constructor
      · rintro ⟨cs, ⟨hall, rfl⟩, rfl⟩
        exact ⟨hall, rfl⟩
      · rintro ⟨hall, rfl⟩
        exact ⟨_, ⟨hall, rfl⟩, rfl⟩
  | false =>
      simp [expand_of_not_hasBrace hbrace, IsExpandable, expanded, hbrace]

/-- The configuration that a written one comes to with the command line. -/
def settled (c : Config) (e : Environment) (o : Overrides) : Config where
  server :=
    { host := o.host.getD (expanded e c.server.host)
      port := o.port.getD c.server.port }
  sidebar := c.sidebar
  stream :=
    { endpoint := o.endpoint.getD (expanded e c.stream.endpoint)
      reconnect := c.stream.reconnect }

theorem expand_eq_ok_iff {c c' : Config} {e : Environment} :
    c.expand e = .ok c' ↔
      IsExpandable e c.server.host ∧ IsExpandable e c.stream.endpoint ∧
        c' = c.settled e {} := by
  constructor
  · intro h
    cases hhost : expandSetting e "server.host" c.server.host with
    | error fault =>
        rw [expand, hhost] at h
        cases h
    | ok host =>
        cases hendpoint : expandSetting e "live_reload.endpoint" c.stream.endpoint with
        | error fault =>
            rw [expand, hhost] at h
            simp only [bind, Except.bind, hendpoint] at h
            cases h
        | ok endpoint =>
            rw [expand, hhost] at h
            simp only [bind, Except.bind, hendpoint] at h
            cases h
            obtain ⟨hexpandable, rfl⟩ := expandSetting_eq_ok_iff_expanded.mp hhost
            obtain ⟨hexpandable', rfl⟩ := expandSetting_eq_ok_iff_expanded.mp hendpoint
            exact ⟨hexpandable, hexpandable', rfl⟩
  · rintro ⟨hhost, hendpoint, rfl⟩
    rw [expand, expandSetting_eq_ok_iff_expanded.mpr ⟨hhost, rfl⟩]
    simp only [bind, Except.bind, expandSetting_eq_ok_iff_expanded.mpr ⟨hendpoint, rfl⟩]
    rfl

/-! ## Files -/

/-- The value that a table sets for a field of one of its sections. -/
def setting? (t : Table) (name : String) (names : List String) (field : String) :
    Option Value :=
  (t.lookup name).bind fun v => (fields? names v).bind (· field)

/-- A value is read from what is set, or is the default where nothing is. -/
def IsReadFrom {α : Type} (set : Option Value) (read? : Value → Option α) (default x : α) :
    Prop :=
  set.elim (some default) read? = some x

/-- The values of a configuration are those that a table sets, or else the defaults. -/
structure IsSetBy (c : Config) (t : Table) : Prop where
  host : IsReadFrom (setting? t "server" ["host", "port"] "host") readText?
    "127.0.0.1" c.server.host
  port : IsReadFrom (setting? t "server" ["host", "port"] "port") readWord16?
    3000 c.server.port
  width : IsReadFrom
    (setting? t "sidebar" ["default_width", "clamp_to_viewport"] "default_width") readNumber?
    300 c.sidebar.width
  clamp : IsReadFrom
    (setting? t "sidebar" ["default_width", "clamp_to_viewport"] "clamp_to_viewport") readFlag?
    false c.sidebar.clampToViewport
  endpoint : IsReadFrom (setting? t "live_reload" ["endpoint", "reconnect"] "endpoint")
    readText? "/ss-events" c.stream.endpoint
  reconnect : IsReadFrom (setting? t "live_reload" ["endpoint", "reconnect"] "reconnect")
    readReconnect? (.fixed 3000 none) c.stream.reconnect

theorem readField?_eq {α : Type} (fields : Fields) (name : String) (read? : Value → Option α)
    (default : α) :
    readField? fields name read? default = (fields name).elim (some default) read? := by
  unfold readField?
  cases fields name <;> rfl

theorem isReadFrom_of_readField? {α : Type} {set : Option Value} {fields : Fields}
    {field : String} {read? : Value → Option α} {default x : α} (hset : set = fields field)
    (h : readField? fields field read? default = some x) : IsReadFrom set read? default x := by
  rwa [IsReadFrom, hset, ← readField?_eq]

/-- A section that a table leaves out is like one without fields. -/
theorem exists_fields_of_section {α : Type} {t : Table} {name : String} {names : List String}
    {readSection? : Value → Option α} {default x : α} {p : Fields → α → Prop}
    (h : readField? (fieldsIn t) name readSection? default = some x)
    (hdefault : p (fun _ => none) default)
    (hread : ∀ v x, readSection? v = some x →
      ∃ fields, fields? names v = some fields ∧ p fields x) :
    ∃ fields : Fields, (∀ field, setting? t name names field = fields field) ∧ p fields x := by
  rw [readField?_eq, fieldsIn] at h
  cases hlookup : t.lookup name with
  | none =>
      rw [hlookup] at h
      cases h
      exact ⟨fun _ => none, fun field => by rw [setting?, hlookup, Option.bind_none], hdefault⟩
  | some v =>
      rw [hlookup] at h
      obtain ⟨fields, hfields, hp⟩ := hread v x h
      refine ⟨fields, fun field => ?_, hp⟩
      rw [setting?, hlookup, Option.bind_some, hfields, Option.bind_some]

theorem readServer?_eq_some {v : Value} {server : DocsServer}
    (h : readServer? v = some server) :
    ∃ fields, fields? ["host", "port"] v = some fields ∧
      readField? fields "host" readText? "127.0.0.1" = some server.host ∧
      readField? fields "port" readWord16? 3000 = some server.port := by
  simp only [readServer?, Option.bind_eq_bind, Option.bind_eq_some_iff] at h
  obtain ⟨fields, hfields, host, hhost, port, hport, h⟩ := h
  cases h
  exact ⟨fields, hfields, hhost, hport⟩

theorem readSidebar?_eq_some {v : Value} {sidebar : Page.SidebarOptions}
    (h : readSidebar? v = some sidebar) :
    ∃ fields, fields? ["default_width", "clamp_to_viewport"] v = some fields ∧
      readField? fields "default_width" readNumber? 300 = some sidebar.width ∧
      readField? fields "clamp_to_viewport" readFlag? false = some sidebar.clampToViewport := by
  simp only [readSidebar?, Option.bind_eq_bind, Option.bind_eq_some_iff] at h
  obtain ⟨fields, hfields, width, hwidth, clamp, hclamp, h⟩ := h
  cases h
  exact ⟨fields, hfields, hwidth, hclamp⟩

theorem readStream?_eq_some {v : Value} {stream : StreamOptions}
    (h : readStream? v = some stream) :
    ∃ fields, fields? ["endpoint", "reconnect"] v = some fields ∧
      readField? fields "endpoint" readText? "/ss-events" = some stream.endpoint ∧
      readField? fields "reconnect" readReconnect? (.fixed 3000 none) =
        some stream.reconnect := by
  simp only [readStream?, Option.bind_eq_bind, Option.bind_eq_some_iff] at h
  obtain ⟨fields, hfields, endpoint, hendpoint, reconnect, hreconnect, h⟩ := h
  cases h
  exact ⟨fields, hfields, hendpoint, hreconnect⟩

theorem isSetBy_of_ofTable? {t : Table} {c : Config} (h : ofTable? t = some c) :
    c.IsSetBy t := by
  simp only [ofTable?, Option.bind_eq_bind, Option.bind_eq_some_iff] at h
  obtain ⟨server, hserver, sidebar, hsidebar, stream, hstream, h⟩ := h
  rw [Option.ite_none_right_eq_some] at h
  obtain ⟨-, h⟩ := h
  cases h
  obtain ⟨_, hset, hhost, hport⟩ :=
    exists_fields_of_section hserver ⟨rfl, rfl⟩ fun _ _ => readServer?_eq_some
  obtain ⟨_, hset', hwidth, hclamp⟩ :=
    exists_fields_of_section hsidebar ⟨rfl, rfl⟩ fun _ _ => readSidebar?_eq_some
  obtain ⟨_, hset'', hendpoint, hreconnect⟩ :=
    exists_fields_of_section hstream ⟨rfl, rfl⟩ fun _ _ => readStream?_eq_some
  exact ⟨isReadFrom_of_readField? (hset _) hhost, isReadFrom_of_readField? (hset _) hport,
    isReadFrom_of_readField? (hset' _) hwidth, isReadFrom_of_readField? (hset' _) hclamp,
    isReadFrom_of_readField? (hset'' _) hendpoint,
    isReadFrom_of_readField? (hset'' _) hreconnect⟩

/-- What there is to load: the table that is written in the file that is given or else found,
and the path of the file.  Without a file nothing is set. -/
inductive Surroundings.IsWritten (s : Surroundings) :
    Option String → Table → Option String → Prop where
  | given {path : String} {entry : Entry} {cs : List Char} {t : Table}
      (hentry : s.find? path = some entry) (htext : entry.text = .ok cs)
      (ht : Table.ofText? cs = some t) : IsWritten s (some path) t (some path)
  | found {p : Place} {entry : Entry} {cs : List Char} {t : Table}
      (hfound : discover? s.has s.directory = some p)
      (hentry : s.find? p.path = some entry) (htext : entry.text = .ok cs)
      (ht : Table.ofText? cs = some t) : IsWritten s none t (some p.path)
  | nothing (hfound : discover? s.has s.directory = none) : IsWritten s none [] none

variable {s : Surroundings} {given path : Option String} {t : Table} {c : Config}
  {e : Environment} {o : Overrides}

theorem ofTable?_nil : ofTable? [] = some {} :=
  rfl

theorem isExpandable_of_not_hasBrace {value : String} (h : hasBrace value.toList = false) :
    IsExpandable e value := by
  intro hbrace
  rw [h] at hbrace
  cases hbrace

theorem expand_default : ({} : Config).expand e = .ok {} := by
  refine expand_eq_ok_iff.mpr ⟨?_, ?_, rfl⟩
  · exact isExpandable_of_not_hasBrace rfl
  · exact isExpandable_of_not_hasBrace rfl

theorem readPath_of_text {path : String} {entry : Entry} {cs : List Char}
    (hentry : s.find? path = some entry) (htext : entry.text = .ok cs)
    (ht : Table.ofText? cs = some t) (hc : ofTable? t = some c) :
    s.readPath path = (c.expand s.environment).map fun config => ⟨config, some path⟩ := by
  have hconfig : ofToml? cs = some c := by rw [ofToml?, ht, Option.bind_some, hc]
  simp only [Surroundings.readPath, hentry, htext, ofText, hconfig]

theorem readFile_of_isWritten (hw : s.IsWritten given t path) (hc : ofTable? t = some c) :
    s.readFile given = (c.expand s.environment).map fun config => ⟨config, path⟩ := by
  cases hw with
  | given hentry htext ht => exact readPath_of_text hentry htext ht hc
  | found hfound hentry htext ht =>
      simp only [Surroundings.readFile, hfound]
      exact readPath_of_text hentry htext ht hc
  | nothing hfound =>
      rw [ofTable?_nil] at hc
      cases hc
      simp only [Surroundings.readFile, hfound, expand_default]
      rfl

/-! ## Loading -/

theorem accept_eq_ok_iff {l l' : Loaded} :
    Surroundings.accept l = .ok l' ↔ l.config.IsAcceptable ∧ l' = l := by
  rw [← objection?_eq_none_iff_isAcceptable, Surroundings.accept]
  cases l.config.objection? with
  | none => simp [eq_comm]
  | some objection => simp

/-- A configuration is loaded just if the references of the file can be put in and what it
comes to with the command line is acceptable. -/
theorem load_eq_ok_iff (hw : s.IsWritten given t path) (hc : ofTable? t = some c)
    (o : Overrides) {l : Loaded} :
    s.load given o = .ok l ↔
      IsExpandable s.environment c.server.host ∧ IsExpandable s.environment c.stream.endpoint ∧
        (c.settled s.environment o).IsAcceptable ∧
        l = ⟨c.settled s.environment o, path⟩ := by
  rw [Surroundings.load, readFile_of_isWritten hw hc]
  cases hexpand : c.expand s.environment with
  | error fault =>
      refine ⟨nofun, ?_⟩
      rintro ⟨hhost, hendpoint, -⟩
      rw [expand_eq_ok_iff.mpr ⟨hhost, hendpoint, rfl⟩] at hexpand
      cases hexpand
  | ok config =>
      obtain ⟨hhost, hendpoint, rfl⟩ := expand_eq_ok_iff.mp hexpand
      exact accept_eq_ok_iff.trans
        ⟨fun h => ⟨hhost, hendpoint, h⟩, fun h => h.2.2⟩

/-- What the command line must be like. -/
structure Overrides.IsAcceptable (o : Overrides) : Prop where
  host : ∀ host ∈ o.host, host ≠ ""
  port : ∀ port ∈ o.port, port ≠ 0
  endpoint : ∀ endpoint ∈ o.endpoint, IsPath endpoint

theorem getD_iff {α : Type} (p : α → Prop) (x? : Option α) (default : α) :
    p (x?.getD default) ↔ (∀ x ∈ x?, p x) ∧ (x? = none → p default) := by
  cases x? <;> simp

/-- What the command line gives is always looked at, and what the file gives only where the
command line gives nothing. -/
theorem isAcceptable_override_iff :
    (c.override o).IsAcceptable ↔
      o.IsAcceptable ∧ (o.host = none → c.server.host ≠ "") ∧
        (o.port = none → c.server.port ≠ 0) ∧
        (o.endpoint = none → IsPath c.stream.endpoint) ∧
        (c.sidebar.width.isFinite = true ∧ Binary64.lt 0 c.sidebar.width = true) ∧
        c.stream.reconnect.IsAcceptable := by
  have hhost := getD_iff (· ≠ "") o.host c.server.host
  have hport := getD_iff (· ≠ 0) o.port c.server.port
  have hendpoint := getD_iff IsPath o.endpoint c.stream.endpoint
  constructor
  · intro h
    exact ⟨⟨(hhost.mp h.host).1, (hport.mp h.port).1, (hendpoint.mp h.endpoint).1⟩,
      (hhost.mp h.host).2, (hport.mp h.port).2, (hendpoint.mp h.endpoint).2, h.width,
      h.reconnect⟩
  · rintro ⟨ho, hhost', hport', hendpoint', hwidth, hreconnect⟩
    exact ⟨hhost.mpr ⟨ho.host, hhost'⟩, hport.mpr ⟨ho.port, hport'⟩, hwidth,
      hendpoint.mpr ⟨ho.endpoint, hendpoint'⟩, hreconnect⟩

/-- Nothing is loaded with a command line that is not acceptable, whatever is written. -/
theorem isAcceptable_of_load {l : Loaded} (h : s.load given o = .ok l) : o.IsAcceptable := by
  rw [Surroundings.load] at h
  cases hread : s.readFile given with
  | error fault =>
      rw [hread] at h
      cases h
  | ok read =>
      rw [hread] at h
      obtain ⟨hacceptable, -⟩ := accept_eq_ok_iff.mp h
      exact (isAcceptable_override_iff.mp hacceptable).1

/-- From a given file, a file that is found, or none: every value is the one that is set, or
the default; a host, a port and an endpoint from the command line take the place of what is
written, as they are; and the outcome is loaded just if all references of the file can be put
in and the outcome is acceptable.  For that it plays no part what the file gives where the
command line gives something acceptable, and nothing makes up for a command line that gives
something else. -/
theorem load_of_written (hw : s.IsWritten given t path) (hc : ofTable? t = some c)
    (o : Overrides) :
    c.IsSetBy t ∧
      (∀ l, s.load given o = .ok l ↔
        IsExpandable s.environment c.server.host ∧
          IsExpandable s.environment c.stream.endpoint ∧
          (c.settled s.environment o).IsAcceptable ∧
          l = ⟨c.settled s.environment o, path⟩) ∧
      ((c.settled s.environment o).IsAcceptable ↔
        o.IsAcceptable ∧ (o.host = none → expanded s.environment c.server.host ≠ "") ∧
          (o.port = none → c.server.port ≠ 0) ∧
          (o.endpoint = none → IsPath (expanded s.environment c.stream.endpoint)) ∧
          (c.sidebar.width.isFinite = true ∧ Binary64.lt 0 c.sidebar.width = true) ∧
          c.stream.reconnect.IsAcceptable) ∧
      (¬ o.IsAcceptable → ∀ anywhere l, s.load anywhere o ≠ .ok l) := by
  refine ⟨isSetBy_of_ofTable? hc, fun l => load_eq_ok_iff hw hc o, ?_, ?_⟩
  · exact isAcceptable_override_iff (c := c.settled s.environment {})
  · intro ho anywhere l h
    exact ho (isAcceptable_of_load h)

/-- The host comes to nothing, the port is zero, and the endpoint is no path. -/
def wrongText : String :=
  "[server]\nhost = \"$\x7bHOST\x7d\"\nport = 0\n[live_reload]\nendpoint = \"e\"\n" ++
    "reconnect = [\"backoff\", 10, 10, 1]"

def wrongConfig : Config where
  server := { host := "$\x7bHOST\x7d", port := 0 }
  stream := { endpoint := "e", reconnect := .backoff 10 10 1 none }

/-- The file is in the directory around the working directory. -/
def wrongSurroundings : Surroundings where
  find? path :=
    if path = "/home/dz.toml" then some (.file (Utf8.encode wrongText.toList)) else none
  directory := ["docs", "home"]
  environment := ⟨[("HOST", [])]⟩

theorem exists_isWritten_wrongText :
    ∃ t, wrongSurroundings.IsWritten none t (some "/home/dz.toml") ∧
      ofTable? t = some wrongConfig := by
  have hconfig : ofToml? wrongText.toList = some wrongConfig := by decide +kernel
  obtain ⟨t, ht, hc⟩ := Option.bind_eq_some_iff.mp hconfig
  have hpath : Place.path ["dz.toml", "home"] = "/home/dz.toml" := by decide +kernel
  have htext : Entry.text (.file (Utf8.encode wrongText.toList)) = .ok wrongText.toList := by
    have hdecode : Utf8.decode? (Utf8.encode wrongText.toList) = some wrongText.toList := by
      decide +kernel
    simp only [Entry.text, hdecode]
  have hentry : wrongSurroundings.find? (Place.path ["dz.toml", "home"]) =
      some (.file (Utf8.encode wrongText.toList)) := by
    rw [hpath]
    rfl
  rw [← hpath]
  exact ⟨t, .found (by decide +kernel) hentry htext ht, hc⟩

def rightOverrides : Overrides where
  host := some "docs"
  port := some 80
  endpoint := some "/$\x7bX\x7d"

/-- What is wrong in a file can be set right on the command line, and there it is taken as it
is. -/
theorem load_of_written_set_right :
    let s := wrongSurroundings
    ∃ t, s.IsWritten none t (some "/home/dz.toml") ∧ ofTable? t = some wrongConfig ∧
      wrongConfig.IsSetBy t ∧
      s.load none rightOverrides =
        .ok ⟨wrongConfig.settled s.environment rightOverrides, some "/home/dz.toml"⟩ ∧
      (∀ l, s.load none {} ≠ .ok l) ∧
      ∀ anywhere l, s.load anywhere { rightOverrides with host := some "" } ≠ .ok l := by
  intro s
  obtain ⟨t, hw, hc⟩ := exists_isWritten_wrongText
  obtain ⟨hset, hload, hright, -⟩ := load_of_written hw hc rightOverrides
  obtain ⟨-, hload', hwrong, -⟩ := load_of_written hw hc {}
  obtain ⟨-, -, -, hrejected⟩ := load_of_written hw hc { rightOverrides with host := some "" }
  refine ⟨t, hw, hc, hset, ?_, ?_, ?_⟩
  · have hhost : IsExpandable s.environment wrongConfig.server.host := by
      have hpieces : pieces wrongConfig.server.host.toList = [.ofBraces "HOST".toList] := by
        have htext : wrongConfig.server.host.toList =
            '$' :: '\x7b' :: ("HOST".toList ++ ['\x7d']) := by
          decide +kernel
        rw [htext, pieces_braces (by decide +kernel) [], pieces.eq_1]
      intro _ name hname
      rw [hpieces] at hname
      cases List.mem_singleton.mp hname
      rfl
    have hset {α : Type} {p : Prop} {x : α} (hnone : some x = none) : p :=
      absurd hnone (Option.some_ne_none x)
    have ho : rightOverrides.IsAcceptable := by
      refine ⟨?_, ?_, ?_⟩
      · simp [rightOverrides]
      · simp [rightOverrides]
      · rintro _ ⟨⟩
        exact ⟨"$\x7bX\x7d", rfl⟩
    have hbackoff : wrongConfig.stream.reconnect.IsAcceptable := by
      refine ⟨?_, ?_, ?_⟩
      · decide +kernel
      · decide +kernel
      · decide
    exact (hload _).mpr ⟨hhost, isExpandable_of_not_hasBrace rfl,
      hright.mpr ⟨ho, hset, hset, hset, by decide +kernel, hbackoff⟩, rfl⟩
  · intro l hok
    exact (hwrong.mp ((hload' l).mp hok).2.2.1).2.2.1 rfl rfl
  · exact hrejected fun ho => ho.host "" rfl rfl

end Config
end LivePage
