import FluentQuery.Proofs.Adapter.Ownership
import Mathlib.Data.List.TakeWhile

/-!
# Files that are opened for reading only

To open a file for reading only, SQLite is given a URI: the path of the file behind `file:`, and the
parameter `mode=ro` behind a question mark. The path that is read from it ends at the first question
mark or number sign, and a percent sign with two hexadecimal digits behind it is read as one byte.

* **`Uri.Names`**, **`Uri.Carries`** — the path that a URI is read as, and its parameters;
* **`Uri.path_eq_bytes_iff`** — the paths that are read as they are written;
* **`Adapter.readOnly_target_iff`** — the paths for which a connection is opened to the file they
  are of, for reading only;
* **`Adapter.cut_at_number_sign`** — a path for which it is not.
-/

namespace FluentQuery

/-! ## URIs as they are read -/

namespace Uri

/-- The value of a hexadecimal digit. -/
def hexValue? (c : Char) : Option Nat :=
  if '0' ≤ c ∧ c ≤ '9' then some (c.toNat - '0'.toNat)
  else if 'a' ≤ c ∧ c ≤ 'f' then some (c.toNat - 'a'.toNat + 10)
  else if 'A' ≤ c ∧ c ≤ 'F' then some (c.toNat - 'A'.toNat + 10)
  else none

/-- The bytes of characters. -/
def bytes (cs : List Char) : List UInt8 := cs.flatMap String.utf8EncodeChar

/-- The bytes that characters stand for, where a percent sign and two hexadecimal digits stand for
one. -/
def unescape : List Char → List UInt8
  | [] => []
  | '%' :: high :: low :: rest =>
    match hexValue? high, hexValue? low with
    | some h, some l => UInt8.ofNat (16 * h + l) :: unescape rest
    | _, _ => String.utf8EncodeChar '%' ++ unescape (high :: low :: rest)
  | c :: rest => String.utf8EncodeChar c ++ unescape rest

/-- Whether a path goes on with a character. -/
def isInside (c : Char) : Bool := c != '?' && c != '#'

/-- The path of a URI, by what stands behind `file:`. -/
def path (cs : List Char) : List UInt8 := unescape (cs.takeWhile isInside)

/-- The parameters of a URI: they stand behind a question mark at the end of the path, up to a
number sign. -/
def parameters (cs : List Char) : List (List Char) :=
  match cs.dropWhile isInside with
  | '?' :: query => (query.takeWhile (· != '#')).splitOn '&'
  | _ => []

/-- A URI names a file by the bytes of its path. -/
def Names (uri : String) (file : List UInt8) : Prop :=
  ∃ rest, uri = "file:" ++ rest ∧ path rest.toList = file

/-- A URI carries a parameter. -/
def Carries (uri parameter : String) : Prop :=
  ∃ rest, uri = "file:" ++ rest ∧ parameter.toList ∈ parameters rest.toList

theorem file_append_inj {rest other : String} (h : "file:" ++ rest = "file:" ++ other) :
    rest = other := by
  have hlists := congrArg String.toList h
  rw [String.toList_append, String.toList_append] at hlists
  exact String.toList_inj.mp (List.append_cancel_left hlists)

theorem names_iff {rest : String} {file : List UInt8} :
    Names ("file:" ++ rest) file ↔ path rest.toList = file :=
  ⟨fun ⟨_, huri, h⟩ => file_append_inj huri ▸ h, fun h => ⟨rest, rfl, h⟩⟩

theorem carries_iff {rest parameter : String} :
    Carries ("file:" ++ rest) parameter ↔ parameter.toList ∈ parameters rest.toList :=
  ⟨fun ⟨_, huri, h⟩ => file_append_inj huri ▸ h, fun h => ⟨rest, rfl, h⟩⟩

/-- Somewhere among characters a percent sign stands in front of two hexadecimal digits. -/
inductive HasEscape : List Char → Prop
  | here {high low : Char} {h l : Nat} {rest : List Char} : hexValue? high = some h →
      hexValue? low = some l → HasEscape ('%' :: high :: low :: rest)
  | later {c : Char} {rest : List Char} : HasEscape rest → HasEscape (c :: rest)

theorem bytes_cons (c : Char) (cs : List Char) :
    bytes (c :: cs) = String.utf8EncodeChar c ++ bytes cs := rfl

/-- Every character has a byte. -/
theorem one_le_utf8EncodeChar (c : Char) : 1 ≤ (String.utf8EncodeChar c).length := by
  rw [String.length_utf8EncodeChar]
  exact c.utf8Size_pos

theorem bytes_append (front back : List Char) : bytes (front ++ back) = bytes front ++ bytes back :=
  List.flatMap_append

/-- Without escapes characters stand for their own bytes. -/
theorem unescape_of_not_hasEscape {cs : List Char} (h : ¬HasEscape cs) :
    unescape cs = bytes cs := by
  fun_induction unescape cs with
  | case1 => rfl
  | case2 high low rest a b hlow hhigh ih => exact absurd (.here hhigh hlow) h
  | case3 high low rest hnone ih => rw [ih (mt .later h), ← bytes_cons]
  | case4 c rest hfront ih => rw [ih (mt .later h), ← bytes_cons]

theorem length_unescape_le (cs : List Char) : (unescape cs).length ≤ (bytes cs).length := by
  fun_induction unescape cs with
  | case1 => exact Nat.le_refl _
  | case2 high low rest a b hlow hhigh ih =>
    have hpercent := one_le_utf8EncodeChar '%'
    simp only [bytes_cons, List.length_append, List.length_cons]
    omega
  | case3 high low rest hnone ih =>
    rw [bytes_cons, List.length_append, List.length_append]
    omega
  | case4 c rest hfront ih =>
    rw [bytes_cons, List.length_append, List.length_append]
    omega

/-- An escape stands for fewer bytes than it is written in. -/
theorem length_unescape_lt {cs : List Char} (h : HasEscape cs) :
    (unescape cs).length < (bytes cs).length := by
  fun_induction unescape cs with
  | case1 => cases h
  | case2 high low rest a b hlow hhigh ih =>
    have hle := length_unescape_le rest
    have hpercent := one_le_utf8EncodeChar '%'
    have hdigit := one_le_utf8EncodeChar high
    simp only [bytes_cons, List.length_append, List.length_cons]
    omega
  | case3 high low rest hnone ih =>
    cases h with
    -- The percent sign at the front is no escape, so there is one further on.
    | here hhigh hlow => exact (hnone _ _ hhigh hlow).elim
    | later h =>
      have hlater := ih h
      rw [bytes_cons, List.length_append, List.length_append]
      omega
  | case4 c rest hfront ih =>
    cases h with
    | here hhigh hlow => exact (hfront _ _ _ rfl rfl).elim
    | later h =>
      have hlater := ih h
      rw [bytes_cons, List.length_append, List.length_append]
      omega

/-- Nothing in a path has a meaning of its own in a URI. -/
def Plain (cs : List Char) : Prop := (∀ c ∈ cs, isInside c = true) ∧ ¬HasEscape cs

/-- The path of a URI ends where the parameters begin, if not before. -/
theorem path_append (cs query : List Char) :
    path (cs ++ '?' :: query) = unescape (cs.takeWhile isInside) := by
  unfold path
  rw [List.takeWhile_append]
  split
  · next hall =>
    rw [(List.takeWhile_prefix _).eq_of_length hall]
    exact congrArg _ (List.append_nil _)
  · rfl

/-- A path that is cut is not read as it is written. -/
theorem length_takeWhile_lt {cs : List Char} (h : ¬∀ c ∈ cs, isInside c = true) :
    (bytes (cs.takeWhile isInside)).length < (bytes cs).length := by
  have hcut : cs.dropWhile isInside ≠ [] := fun hnil => h (List.dropWhile_eq_nil_iff.mp hnil)
  obtain ⟨c, rest, hrest⟩ := List.exists_cons_of_ne_nil hcut
  have hone := one_le_utf8EncodeChar c
  have hsplit : bytes cs = bytes (cs.takeWhile isInside) ++ bytes (cs.dropWhile isInside) := by
    rw [← bytes_append, List.takeWhile_append_dropWhile]
  rw [hsplit, hrest, bytes_cons, List.length_append, List.length_append]
  omega

/-- **The path that is read is the one that was written exactly if it is plain.** -/
theorem path_eq_bytes_iff {cs query : List Char} :
    path (cs ++ '?' :: query) = bytes cs ↔ Plain cs := by
  rw [path_append]
  constructor
  · intro h
    have hlength := congrArg List.length h
    -- A cut and an escape both leave fewer bytes than the path has.
    have hinside : ∀ c ∈ cs, isInside c = true := by
      refine Decidable.byContradiction fun hcut => ?_
      have hlt := length_takeWhile_lt hcut
      have hle := length_unescape_le (cs.takeWhile isInside)
      omega
    rw [List.takeWhile_eq_self_iff.mpr hinside] at hlength
    exact ⟨hinside, fun hescape => Nat.ne_of_lt (length_unescape_lt hescape) hlength⟩
  · rintro ⟨hinside, hescape⟩
    rw [List.takeWhile_eq_self_iff.mpr hinside, unescape_of_not_hasEscape hescape]

/-- The parameter behind a path that is not cut. -/
theorem parameters_of_inside {cs parameter : List Char} (h : ∀ c ∈ cs, isInside c = true)
    (hsign : '#' ∉ parameter) (hand : '&' ∉ parameter) :
    parameters (cs ++ '?' :: parameter) = [parameter] := by
  have hwhole : parameter.takeWhile (· != '#') = parameter :=
    List.takeWhile_eq_self_iff.mpr fun c hc => bne_iff_ne.mpr fun heq => hsign (heq ▸ hc)
  have hone : parameter.splitOn '&' = [parameter] := List.splitOn_eq_singleton hand
  unfold parameters
  rw [List.dropWhile_append_of_pos h, List.dropWhile_cons_of_neg (by decide)]
  simp only
  rw [hwhole, hone]

/-- Behind a number sign there are no parameters. -/
theorem parameters_of_numberSign {cs : List Char} (hsign : '#' ∈ cs) (hmark : '?' ∉ cs)
    (query : List Char) : parameters (cs ++ query) = [] := by
  induction cs with
  | nil => cases hsign
  | cons c cs ih =>
    obtain ⟨hc, hrest⟩ := not_or.mp (mt List.mem_cons.mpr hmark)
    by_cases hcut : c = '#'
    · subst hcut
      rfl
    · have hinside : isInside c = true := by
        simp [isInside, hcut, show c ≠ '?' from fun heq => hc heq.symm]
      have hlater : '#' ∈ cs := (List.mem_cons.mp hsign).resolve_left fun heq => hcut heq.symm
      have hskip := ih hlater hrest
      unfold parameters at hskip ⊢
      rw [List.cons_append, List.dropWhile_cons_of_pos hinside]
      exact hskip

end Uri

namespace Adapter

variable {a : Adapter} {records : List LogRecord}

/-- To connect is to make one call, whatever becomes of it. -/
theorem connect_calls (hclosed : a.connected = false) {positional : List Value}
    {keywords : List (String × Value)} (htarget : a.target = .ok (positional, keywords)) :
    (connect.runFrom ⟨a, records⟩).2.state.calls = a.calls ++ [.connect positional keywords] := by
  unfold connect
  rw [Action.runFrom_bind_ok (Action.runFrom_current _)]
  simp only
  rw [hclosed, if_neg (by decide), Action.runFrom_bind_ok (Action.runFrom_attempt _ _),
    openConnection_runFrom, htarget]
  simp only
  cases a.driver.fault (a.calls ++ [.connect positional keywords]) with
  | some f =>
    simp only
    cases a.engine.ownFault? (.fault f) <;> rfl
  | none =>
    simp only
    rw [Action.runFrom_bind_ok (Action.runFrom_update _ _),
      Action.state_bind fun _ => .log _ _ _]
    rfl

/-- What is passed to SQLite to open a file for reading only. -/
theorem target_readOnly (hsqlite : a.engine.isSqlite = true) {path : String}
    (hdatabase : a.database = .text path) (hmemory : path ≠ ":memory:")
    (hreadOnly : (a.option "read_only" (.bool false)).isTruthy = true) :
    ∃ keywords, a.target =
        .ok ([.text ("file:" ++ Path.absolute a.files.directory path ++ "?mode=ro")], keywords) ∧
      keywords.lookup "uri" = some (.bool true) := by
  have hfile : isMemory a.database = false := by
    unfold isMemory
    rw [hdatabase, Value.equals_text]
    exact beq_eq_false_iff_ne.mpr hmemory
  have htarget : a.target = .ok ([.text ("file:" ++ Path.absolute a.files.directory path ++
      "?mode=ro")], [("uri", .bool true), ("timeout", a.option "timeout" (.float (.ofInt 30))),
        ("isolation_level", a.option "isolation_level" .null)]) := by
    unfold target
    rw [hfile, hreadOnly, hdatabase]
    cases hengine : a.engine with
    | sqlite | other => rfl
    | _ => rw [hengine] at hsqlite; cases hsqlite
  exact ⟨_, htarget, rfl⟩

/-- **When a file is opened for reading only.** An SQLite adapter that is not connected, with the
path of a file for its database and to be read only, connects by one call to its driver, whatever
that answers. The call has a URI, and says so.

* The URI names the absolute path of the file and carries `mode=ro` exactly if that path is plain:
  it has no question mark, no number sign, and no percent sign in front of two hexadecimal digits.
* Else it is another file that the URI names.
* If the path has a number sign and no question mark, the URI does not carry `mode=ro`. -/
theorem readOnly_target_iff (hsqlite : a.engine.isSqlite = true) (hclosed : a.connected = false)
    {path file : String} (hdatabase : a.database = .text path) (hmemory : path ≠ ":memory:")
    (hreadOnly : (a.option "read_only" (.bool false)).isTruthy = true)
    (hfile : Path.absolute a.files.directory path = file) :
    ∃ uri keywords, (connect.runFrom ⟨a, records⟩).2.state.calls =
        a.calls ++ [.connect [.text uri] keywords] ∧
      keywords.lookup "uri" = some (.bool true) ∧
      (Uri.Names uri (Uri.bytes file.toList) ∧ Uri.Carries uri "mode=ro" ↔
        Uri.Plain file.toList) ∧
      (¬Uri.Plain file.toList → ¬Uri.Names uri (Uri.bytes file.toList)) ∧
      ('#' ∈ file.toList → '?' ∉ file.toList → ¬Uri.Carries uri "mode=ro") := by
  obtain ⟨keywords, htarget, huri⟩ := target_readOnly hsqlite hdatabase hmemory hreadOnly
  rw [hfile] at htarget
  have hrest : (file ++ "?mode=ro").toList = file.toList ++ '?' :: "mode=ro".toList := by
    rw [String.toList_append]
    rfl
  have hnames : Uri.Names ("file:" ++ file ++ "?mode=ro") (Uri.bytes file.toList) ↔
      Uri.Plain file.toList := by
    rw [String.append_assoc, Uri.names_iff, hrest, Uri.path_eq_bytes_iff]
  have hcarries : Uri.Carries ("file:" ++ file ++ "?mode=ro") "mode=ro" ↔
      "mode=ro".toList ∈ Uri.parameters (file.toList ++ '?' :: "mode=ro".toList) := by
    rw [String.append_assoc, Uri.carries_iff, hrest]
  refine ⟨_, keywords, connect_calls hclosed htarget, huri, ?_, mt hnames.mp, fun hsign hmark => ?_⟩
  · rw [hnames, and_iff_left_iff_imp, hcarries]
    rintro ⟨hinside, -⟩
    rw [Uri.parameters_of_inside hinside (by decide) (by decide)]
    exact List.mem_singleton_self _
  · rw [hcarries, Uri.parameters_of_numberSign hsign hmark]
    exact List.not_mem_nil

/-- An adapter for a file that there is, to be read only. -/
def reading (path : String) : Adapter where
  engine := .sqlite
  options := .dict [(.text "database", .text path), (.text "read_only", .bool true)]
  files := { present := [.text path] }

/-- A percent sign that is no escape does not matter. -/
theorem readOnly_target_iff_percent :
    make .sqlite (reading "/data/100%.db").options default (reading "/data/100%.db").files =
        .ok (reading "/data/100%.db") ∧
      ∃ uri keywords,
        (connect.runFrom ⟨reading "/data/100%.db", []⟩).2.state.calls =
          [.connect [.text uri] keywords] ∧
        Uri.Names uri (Uri.bytes "/data/100%.db".toList) ∧ Uri.Carries uri "mode=ro" := by
  obtain ⟨uri, keywords, hcalls, -, hiff, -⟩ := @readOnly_target_iff (reading "/data/100%.db") []
    rfl rfl "/data/100%.db" "/data/100%.db" rfl (by decide) rfl rfl
  have hplain : Uri.Plain "/data/100%.db".toList :=
    ⟨List.all_eq_true.mp (by decide), fun h => absurd (Uri.length_unescape_lt h) (by decide)⟩
  exact ⟨rfl, uri, keywords, hcalls, hiff.mpr hplain⟩

/-- With a number sign in its path, another file is opened, and not for reading only. -/
theorem cut_at_number_sign :
    make .sqlite (reading "/data/a#b.db").options default (reading "/data/a#b.db").files =
        .ok (reading "/data/a#b.db") ∧
      Path.absolute (reading "/data/a#b.db").files.directory "/data/a#b.db" = "/data/a#b.db" ∧
      (connect.runFrom ⟨reading "/data/a#b.db", []⟩).2.state.calls =
        [.connect [.text "file:/data/a#b.db?mode=ro"] [("uri", .bool true),
          ("timeout", .float (.ofInt 30)), ("isolation_level", .null)]] ∧
      ¬Uri.Names "file:/data/a#b.db?mode=ro" (Uri.bytes "/data/a#b.db".toList) ∧
      Uri.Names "file:/data/a#b.db?mode=ro" (Uri.bytes "/data/a".toList) ∧
      ¬Uri.Carries "file:/data/a#b.db?mode=ro" "mode=ro" := by
  have huri : "file:/data/a#b.db?mode=ro" = "file:" ++ "/data/a#b.db?mode=ro" := rfl
  refine ⟨rfl, rfl, rfl, ?_, ?_, ?_⟩
  · rw [huri, Uri.names_iff]
    decide
  · rw [huri, Uri.names_iff]
    decide
  · rw [huri, Uri.carries_iff]
    decide

end Adapter

end FluentQuery
