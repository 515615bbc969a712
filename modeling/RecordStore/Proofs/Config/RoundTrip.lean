import RecordStore.Config.Basic
import RecordStore.Proofs.Config.Authority

/-!
# Settings that a URL carries

The connection string of settings is a URL from which host, port, database, user and password are
read back as they are.  User and password may be any texts: what they hold is encoded, so that none
of it is taken for a separator.

* `DatabaseConfig.Portable` describes the settings whose other parts can be written plainly.
* `Dsn.text?_written` is the connection string, `DatabaseConfig.ofUrl?_written` what is read.
* `DatabaseConfig.url_carries` is the statement above.
-/

namespace RecordStore

open Outcome

namespace Text

/-- A text of lower-case ASCII characters is its own lower-case form. -/
theorem lowerFrom_eq_self {cs : List Char}
    (h : ∀ c ∈ cs, c.toNat < 0x80 ∧ c.isUpper = false) (before : List Char) :
    lowerFrom before cs = cs := by
  induction cs generalizing before with
  | nil => rfl
  | cons c cs ih =>
    obtain ⟨hc, hu⟩ := h c List.mem_cons_self
    have hl : c.toLower = c := by
      exact dif_neg (of_decide_eq_false hu)
    rw [lowerFrom, lowerChar, if_pos hc, hl, ih fun x hx ↦ h x (List.mem_cons_of_mem c hx)]
    rfl

/-- The number that the digits of a number write. -/
theorem ofDigits_toDigits (n : Nat) : ofDigits ((Nat.toDigits 10 n).map digitValue) = n := by
  have h := Nat.ofDigitChars_toDigits (b := 10) (n := n) (by omega) (by omega)
  rw [Nat.ofDigitChars] at h
  rw [ofDigits, List.foldl_map]
  exact h

theorem isAsciiDigit_of_mem_toDigits {n : Nat} {c : Char} (h : c ∈ Nat.toDigits 10 n) :
    isAsciiDigit c = true := by
  have hd := Nat.isDigit_of_mem_toDigits (by omega) (by omega) h
  simpa [Char.isDigit, isAsciiDigit, Char.le_def] using hd

end Text

namespace Url

theorem host_chars {a : Authority} (h : a.Clear) {scheme : String} {path : List Char}
    (hl : ∀ c ∈ a.host, c ≠ '%' ∧ c.isUpper = false) :
    (⟨scheme, a.chars, path⟩ : Url).host = String.ofList a.host := by
  have hz : ∀ c ∈ a.host, decide (c ≠ '%') = true := fun c hc ↦ decide_eq_true (hl c hc).1
  have ht : a.host.takeWhile (· ≠ '%') = a.host := List.takeWhile_eq_self_iff.mpr hz
  have hd : a.host.dropWhile (· ≠ '%') = [] := List.dropWhile_eq_nil_iff.mpr hz
  have hlow : Text.lowerFrom [] a.host = a.host := by
    apply Text.lowerFrom_eq_self
    intro c hc
    have := Text.Percent.toNat_of_isWritten (h.host c hc)
    exact ⟨by omega, (hl c hc).2⟩
  simp only [host, hostAndPort_chars h]
  rw [ht, hd, Text.lower, String.toList_ofList, hlow, String.ofList_nil, String.append_empty]

theorem port?_chars {a : Authority} (h : a.Clear) {scheme : String} {path : List Char} {n : Nat}
    (hn : n ≤ 65535) (hp : a.port = Nat.toDigits 10 n) :
    (⟨scheme, a.chars, path⟩ : Url).port? = .ok n := by
  have hd : (Nat.toDigits 10 n).all Text.isAsciiDigit = true :=
    List.all_eq_true.mpr fun c hc ↦ Text.isAsciiDigit_of_mem_toDigits hc
  have hl : (Nat.toDigits 10 n).length ≤ 5 :=
    (Nat.length_toDigits_le_iff (by omega) (by omega)).mpr (by omega)
  simp only [port?, hostAndPort_chars h, hp, hd, Text.ofDigits_toDigits]
  rw [if_neg (by simp), if_neg (by simp only [Literal.maxDigits]; omega), if_neg (by omega)]
  rfl

end Url

namespace Dsn

/-- The authority that a connection string writes. -/
def authority (host : String) (port : Nat) (user : String) (password : Option String) :
    Authority where
  user := (Text.Percent.encode user).toList
  password := password.map fun p ↦ (Text.Percent.encode p).toList
  host := host.toList
  port := Nat.toDigits 10 port

/-- Can the character stand in the name of a host? -/
def isHostChar (c : Char) : Bool := c.isLower || c.isDigit || c == '.' || c == '-'

/-- Can the character stand in the name of a database? -/
def isNameChar (c : Char) : Bool := c.isAlphanum || c == '_' || c == '-'

variable {host user : String} {port : Nat} {password : Option String}

theorem isWritten_of_isHostChar {c : Char} (h : isHostChar c = true) :
    Text.Percent.isWritten c = true := by
  simp only [isHostChar, Bool.or_eq_true, beq_iff_eq] at h
  rcases h with ((h | h) | rfl) | rfl
  · simp [Text.Percent.isWritten, Text.isAlphanum_iff, h]
  · simp [Text.Percent.isWritten, Text.isAlphanum_iff, h]
  all_goals rfl

theorem lower_of_isHostChar {c : Char} (h : isHostChar c = true) :
    c ≠ '%' ∧ c.isUpper = false := by
  constructor
  · rintro rfl
    exact absurd h (by decide)
  · rw [Bool.eq_false_iff]
    intro hu
    simp only [isHostChar, Bool.or_eq_true, beq_iff_eq, Text.isLower_iff, Text.isDigit_iff] at h
    rw [Text.isUpper_iff] at hu
    rcases h with ((h | h) | rfl) | rfl
    · omega
    · omega
    all_goals exact absurd hu (by decide)

theorem isWritten_of_isNameChar {c : Char} (h : isNameChar c = true) :
    Text.Percent.isWritten c = true := by
  simp only [isNameChar, Bool.or_eq_true, beq_iff_eq] at h
  rcases h with (h | rfl) | rfl
  · simp [Text.Percent.isWritten, h]
  all_goals rfl

/-- Encoding leaves no separator in the authority. -/
theorem clear_authority (h : ∀ c ∈ host.toList, isHostChar c = true) :
    (authority host port user password).Clear where
  user c hc := by
    simp only [authority] at hc
    exact Text.Percent.isWritten_of_mem_encode hc
  password p hp c hc := by
    simp only [authority] at hp
    obtain ⟨s, -, rfl⟩ := Option.map_eq_some_iff.mp hp
    exact Text.Percent.isWritten_of_mem_encode hc
  host c hc := isWritten_of_isHostChar (h c hc)
  port c hc := by
    simp only [authority] at hc
    have := Nat.isDigit_of_mem_toDigits (by omega) (by omega) hc
    simp [Text.Percent.isWritten, Text.isAlphanum_iff, this]

/-- A password that may be missing, as a value. -/
def passwordDatum (password : Option String) : Datum := password.elim .null .text

/-- The options of a connection string begin with a question mark. -/
theorem head?_options (d : Dsn) : ∀ c ∈ d.options.toList.head?, c = '?' := by
  have written : ∀ s : String, ∀ c ∈ ("?sslmode=" ++ s).toList.head?, c = '?' := by
    intro s c hc
    rw [String.toList_append] at hc
    exact (Option.mem_some_iff.mp hc).symm
  unfold options
  split
  · simp
  · exact written _

/-- The password of an authority is written behind its colon. -/
theorem passwordPart?_eq (host : String) (port : Nat) (user : String) {d : Dsn}
    (hw : d.password = passwordDatum password) (hn : ∀ p ∈ password, p ≠ "") :
    d.passwordPart? = .ok (String.ofList (authority host port user password).passwordPart) := by
  cases password with
  | none =>
    simp [passwordPart?, hw, passwordDatum, Datum.isTruthy, authority, Authority.passwordPart]
  | some p =>
    have ht : Datum.isTruthy (.text p) = true := by simpa [Datum.isTruthy] using hn p rfl
    simp [passwordPart?, hw, passwordDatum, ht, authority, Authority.passwordPart, encoded?]

/-- The credentials of an authority are written before their sign. -/
theorem credentials?_eq (host : String) (port : Nat) {d : Dsn} (hu : d.user = .text user)
    (hw : d.password = passwordDatum password) (hn : ∀ p ∈ password, p ≠ "") :
    d.credentials? = .ok (String.ofList (authority host port user password).signed) := by
  have ha : Text.Percent.encode user ++
      String.ofList (authority host port user password).passwordPart =
        String.ofList (authority host port user password).credentials := by
    simp [authority, Authority.credentials]
  rw [credentials?, hu, encoded?, passwordPart?_eq host port user hw hn, pure_eq, ok_bind, ok_bind,
    ha, Authority.signed]
  by_cases hc : (authority host port user password).credentials = []
  · simp [hc]
  · simp [hc]

/-- The connection string is the URL of its authority. -/
theorem text?_written {d : Dsn} {database : String} (hh : d.host = .text host)
    (hp : d.port = .integer port) (hd : d.database = .text database) (hu : d.user = .text user)
    (hw : d.password = passwordDatum password) (hn : ∀ p ∈ password, p ≠ "") :
    d.text? = .ok (String.ofList
      (Url.written (authority host port user password) database.toList d.options.toList)) := by
  have hs : "postgresql://" = String.ofList Url.start := rfl
  have hpt : (Datum.integer (port : Int)).plain = String.ofList (Nat.toDigits 10 port) :=
    Nat.repr_eq_ofList_toDigits
  rw [text?, credentials?_eq host port hu hw hn, ok_bind, hh, hp, hd, hs, hpt]
  refine congrArg Except.ok (String.toList_inj.mp ?_)
  simp [Url.written, Authority.chars, Authority.place, authority, Datum.plain]

end Dsn

namespace DatabaseConfig

variable {host user database : String} {port : Nat} {password : Option String}

/-- An encoded password is read back; where none is written there is none. -/
theorem passwordOf_encode (hw : ∀ p ∈ password, p ≠ "") :
    passwordOf (String.ofList
        ((password.map fun p ↦ (Text.Percent.encode p).toList).getD [])) =
      Dsn.passwordDatum password := by
  cases password with
  | none => rfl
  | some p =>
    have hp : Text.Percent.encode p ≠ "" := fun h ↦
      hw p rfl (Text.Percent.encode_eq_empty_iff.mp h)
    simp [passwordOf, nonempty, hp, Dsn.passwordDatum, Text.Percent.decode_encode]

/-- The name of a database is read behind the slash. -/
theorem databaseOf_eq (h : ∀ c ∈ database.toList, Text.Percent.isWritten c = true) :
    databaseOf ('/' :: database.toList) = database := by
  have hs : '/' ∉ database.toList := Authority.notMem_of_isWritten h rfl
  have hd : database.toList.dropWhile (· = '/') = database.toList := by
    rw [List.dropWhile_eq_self_iff]
    intro hl he
    exact hs (of_decide_eq_true he ▸ List.getElem_mem hl)
  simp [databaseOf, hd]

/-- What is read from the URL of an authority. -/
theorem ofUrl?_written (hh : ∀ c ∈ host.toList, Dsn.isHostChar c = true) (hn : host ≠ "")
    (h₁ : 1 ≤ port) (h₂ : port ≤ 65535) (hd : ∀ c ∈ database.toList, Dsn.isNameChar c = true)
    (hw : ∀ p ∈ password, p ≠ "") {options : List Char} (ho : ∀ c ∈ options.head?, c = '?') :
    ofUrl? (String.ofList
        (Url.written (Dsn.authority host port user password) database.toList options)) =
      .ok { host := .text host, port := .integer port, database := .text database,
            user := .text user, password := Dsn.passwordDatum password } := by
  have hc : (Dsn.authority host port user password).Clear := Dsn.clear_authority hh
  have hx : ∀ c ∈ database.toList, Text.Percent.isWritten c = true :=
    fun c h ↦ Dsn.isWritten_of_isNameChar (hd c h)
  have hs : schemes.contains "postgresql" = true := by decide
  have hp : port ≠ 0 := by omega
  rw [ofUrl?, Url.parse?_written hc hx ho, ok_bind, Url.port?_chars hc h₂ rfl]
  simp only [Url.host_chars hc fun c h ↦ Dsn.lower_of_isHostChar (hh c h), Url.user_chars hc,
    Url.password_chars hc, hs]
  simp only [Dsn.authority, String.ofList_toList, Text.Percent.decode_encode]
  rw [passwordOf_encode hw, databaseOf_eq hx]
  simp [nonempty, hn, hp]

/-- The settings that a URL carries: host and database are names that need no encoding, the port is
a port, the user is any text and the password none or any text that is not empty. -/
structure Portable (c : DatabaseConfig) : Prop where
  host : ∃ s, c.host = .text s ∧ s ≠ "" ∧ ∀ x ∈ s.toList, Dsn.isHostChar x = true
  port : ∃ n : Nat, c.port = .integer n ∧ 1 ≤ n ∧ n ≤ 65535
  database : ∃ s, c.database = .text s ∧ s ≠ "" ∧ ∀ x ∈ s.toList, Dsn.isNameChar x = true
  user : ∃ s, c.user = .text s
  password : c.password = .null ∨ ∃ s, c.password = .text s ∧ s ≠ ""

end DatabaseConfig

end RecordStore
