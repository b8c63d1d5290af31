import CallWeave.Proofs.Codec.Numerals
import CallWeave.Url.Basic
import Mathlib.Data.List.TakeWhile

/-!
# What a URL addresses

Behind its scheme a URL of a special kind names a host, and maybe a port, in front of which may stand a user: all of
it up to the first slash of either kind, question mark or hash (`Url.authority`). How this part is cut is said by its pieces
(`Url.Addresses`): every authority is cut in exactly one way. Nothing but the host and the port can be wrong with such
a URL (`Url.Refused`), whatever parser reads the host.
-/

namespace CallWeave.Url

variable {text part address host digits : List Char} {port : Option (List Char)} {scheme : String} {e : Error}

/-! ## Pieces -/

/-- An address stands behind the last `@` of an authority, or is all of it. -/
def BehindUser (part address : List Char) : Prop :=
  '@' ∉ address ∧ (part = address ∨ ∃ info, part = info ++ '@' :: address)

theorem splitUser_of_not_mem (none : '@' ∉ part) : splitUser part = Option.none := by
  have passed : part.reverse.dropWhile (· ≠ '@') = [] := by
    rw [List.dropWhile_eq_nil_iff]
    intro c isIn
    have other : c ≠ '@' := fun same => none (same ▸ List.mem_reverse.mp isIn)
    simpa using other
  rw [splitUser, passed]

theorem splitUser_append (info : List Char) (none : '@' ∉ address) :
    splitUser (info ++ '@' :: address) = some (info, address) := by
  have others : ∀ c ∈ address.reverse, decide (c ≠ '@') = true := fun c isIn => by
    have other : c ≠ '@' := fun same => none (same ▸ List.mem_reverse.mp isIn)
    simpa using other
  have back : (info ++ '@' :: address).reverse = address.reverse ++ '@' :: info.reverse := by simp
  rw [splitUser, back, List.dropWhile_append_of_pos others, List.takeWhile_append_of_pos others]
  simp

/-- What is left of an authority without its user. -/
theorem splitUser_eq_iff : ((splitUser part).getD ([], part)).2 = address ↔ BehindUser part address := by
  have found (behind : BehindUser part address) :
      ((splitUser part).getD ([], part)).2 = address := by
    obtain ⟨none, rfl | ⟨info, rfl⟩⟩ := behind
    · rw [splitUser_of_not_mem none, Option.getD_none]
    · rw [splitUser_append info none, Option.getD_some]
  refine ⟨?_, found⟩
  rintro rfl
  by_cases isThere : '@' ∈ part.reverse
  · obtain ⟨near, far, same, none⟩ := List.eq_append_cons_of_mem isThere
    obtain rfl : part = far.reverse ++ '@' :: near.reverse := by
      rw [← List.reverse_reverse part, same]
      simp
    have none : '@' ∉ near.reverse := by simpa using none
    rw [splitUser_append _ none, Option.getD_some]
    exact ⟨none, .inr ⟨_, rfl⟩⟩
  · have none : '@' ∉ part := by simpa using isThere
    rw [splitUser_of_not_mem none, Option.getD_none]
    exact ⟨none, .inl rfl⟩

/-- Whether brackets are open behind a text. -/
def inBrackets (inside : Bool) (text : List Char) : Bool :=
  text.foldl (fun inside c => if c = '[' then true else if c = ']' then false else inside) inside

/-- A port as it stands behind the host. -/
def portText : Option (List Char) → List Char
  | none => []
  | some digits => ':' :: digits

/-- A text in which every colon stands in brackets. -/
def ColonsInside (inside : Bool) (text : List Char) : Prop :=
  ∀ before behind, text = before ++ ':' :: behind → inBrackets inside before = true

theorem colonsInside_cons {c : Char} {inside : Bool} : ColonsInside inside (c :: text) ↔
    (c = ':' → inside = true) ∧ ColonsInside (inBrackets inside [c]) text := by
  constructor
  · intro colons
    refine ⟨fun isColon => colons [] text (isColon ▸ rfl), fun before behind same => ?_⟩
    exact colons (c :: before) behind (same ▸ rfl)
  · rintro ⟨first, others⟩ before behind same
    cases before with
    | nil => exact first (List.cons_eq_cons.mp same).1
    | cons d before =>
      obtain ⟨rfl, rest⟩ := List.cons_eq_cons.mp same
      exact others before behind rest

/-- The host goes up to the first colon outside brackets. -/
theorem splitPort_eq_iff {inside : Bool} :
    splitPort inside address = (host, port) ↔
      address = host ++ portText port ∧ ColonsInside inside host ∧ (port ≠ none → inBrackets inside host = false) := by
  have noPort : portText port = [] ↔ port = none := by
    cases port <;> simp [portText]
  induction address generalizing inside host with
  | nil =>
    rw [splitPort, Prod.mk.injEq, List.nil_eq_append_iff, noPort]
    constructor
    · rintro ⟨rfl, rfl⟩
      exact ⟨⟨rfl, rfl⟩, by simp [ColonsInside], by simp⟩
    · rintro ⟨⟨rfl, rfl⟩, -⟩
      exact ⟨rfl, rfl⟩
  | cons c rest ih =>
    rw [splitPort]
    split
    case isTrue ends =>
      obtain ⟨rfl, isOutside⟩ : c = ':' ∧ inside = false := by simpa using ends
      rw [Prod.mk.injEq]
      constructor
      · rintro ⟨rfl, rfl⟩
        exact ⟨rfl, by simp [ColonsInside], fun _ => isOutside⟩
      · rintro ⟨same, colons, -⟩
        cases host with
        | nil =>
          cases port with
          | none => cases same
          | some digits => exact ⟨rfl, by simpa [portText] using same⟩
        | cons d host =>
          obtain ⟨rfl, -⟩ := List.cons_eq_cons.mp same
          have isInside := (colonsInside_cons.mp colons).1 rfl
          rw [isOutside] at isInside
          cases isInside
    case isFalse further =>
      have isInside : c = ':' → inside = true := by simpa using further
      cases host with
      | nil =>
        refine iff_of_false (by simp) ?_
        rintro ⟨same, -, isOutside⟩
        cases port with
        | none => cases same
        | some digits =>
          obtain ⟨rfl, -⟩ := List.cons_eq_cons.mp same
          exact absurd (isInside rfl) (by simpa [inBrackets] using isOutside (by simp))
      | cons d host =>
        have cut (split : List Char × Option (List Char)) :
            (c :: split.1, split.2) = (d :: host, port) ↔ c = d ∧ split = (host, port) := by
          rw [Prod.mk.injEq, List.cons_eq_cons, and_assoc, Prod.ext_iff]
        have later : splitPort (inBrackets inside [c]) rest = (host, port) ↔ _ := ih
        refine (cut _).trans ((and_congr_right fun _ => later).trans ?_)
        rw [List.cons_append, List.cons_eq_cons, and_assoc]
        refine and_congr_right fun same => and_congr_right fun _ => ?_
        subst same
        rw [colonsInside_cons, and_assoc]
        exact (and_iff_right isInside).symm

/-- An authority names a host and maybe a port: the host goes up to the first colon outside brackets. -/
structure Addresses (part host : List Char) (port : Option (List Char)) : Prop where
  behindUser : BehindUser part (host ++ portText port)
  inside : ColonsInside false host
  outside : port ≠ none → inBrackets false host = false

theorem addresses_iff :
    Addresses part host port ↔ splitPort false ((splitUser part).getD ([], part)).2 = (host, port) := by
  rw [splitPort_eq_iff, splitUser_eq_iff]
  exact ⟨fun ⟨behindUser, inside, outside⟩ => ⟨behindUser, inside, outside⟩,
    fun ⟨behindUser, inside, outside⟩ => ⟨behindUser, inside, outside⟩⟩

/-- Every authority is cut in exactly one way. -/
theorem exists_addresses (part : List Char) : ∃ host port, Addresses part host port ∧
    ∀ other digits, Addresses part other digits → other = host ∧ digits = port := by
  refine ⟨_, _, addresses_iff.mpr rfl, fun other digits addresses => ?_⟩
  rw [addresses_iff.mp addresses]
  exact ⟨rfl, rfl⟩

/-! ## Ports -/

/-- A digit behind others is read after them. -/
theorem number?_append {radix n : Nat} {c : Char} : number? radix (digits ++ [c]) = some n ↔
    ∃ before value, number? radix digits = some before ∧ Numeral.Counts radix c value ∧
      n = before * radix + value := by
  have read : number? radix (digits ++ [c]) = (number? radix digits).bind fun n =>
      (Hex.digitValue? c).bind fun d => if d < radix then some (n * radix + d) else none := by
    rw [number?, List.foldl_append, ← number?, List.foldl_cons, List.foldl_nil]
    cases number? radix digits <;> cases Hex.digitValue? c <;> rfl
  rw [read]
  simp only [Option.bind_eq_some_iff, Option.ite_none_right_eq_some, Option.some.injEq, Numeral.Counts]
  constructor
  · rintro ⟨before, isBefore, value, isDigit, less, rfl⟩
    exact ⟨before, value, isBefore, ⟨isDigit, less⟩, rfl⟩
  · rintro ⟨before, value, isBefore, ⟨isDigit, less⟩, rfl⟩
    exact ⟨before, isBefore, value, isDigit, less, rfl⟩

/-- Digits are read as the number that they spell, and nothing else is. -/
theorem number?_eq_some_iff {radix n : Nat} (nonempty : digits ≠ []) :
    number? radix digits = some n ↔ Numeral.Spells radix digits n := by
  induction digits using List.reverseRecOn generalizing n with
  | nil => exact absurd rfl nonempty
  | append_singleton front c ih =>
    rw [number?_append]
    cases front with
    | nil =>
      rw [List.nil_append, Numeral.spells_singleton_iff]
      constructor
      · rintro ⟨before, value, start, counts, rfl⟩
        obtain rfl : 0 = before := Option.some.inj start
        rwa [Nat.zero_mul, Nat.zero_add]
      · exact fun counts => ⟨0, n, rfl, counts, by rw [Nat.zero_mul, Nat.zero_add]⟩
    | cons d rest =>
      rw [Numeral.spells_append_iff (by simp)]
      simp only [ih (List.cons_ne_nil d rest)]

/-- A port is a number of 16 bits, or nothing behind its colon. -/
def PortFits (port : Option (List Char)) : Prop :=
  ∀ digits ∈ port, digits = [] ∨ ∃ n, Numeral.Spells 10 digits n ∧ n ≤ 65535

/-- What counts in base ten is a decimal digit. -/
theorem isDecimal_of_counts {c : Char} {value : Nat} (counts : Numeral.Counts 10 c value) :
    ('0' ≤ c && c ≤ '9') = true := by
  obtain ⟨isDigit, less⟩ := counts
  rw [Hex.digitValue?] at isDigit
  split_ifs at isDigit with decimal lower upper
  · simpa using decimal
  · have large : 97 ≤ c.toNat := UInt32.le_iff_toNat_le.mp lower.1
    have := Option.some.inj isDigit
    omega
  · have large : 65 ≤ c.toNat := UInt32.le_iff_toNat_le.mp upper.1
    have := Option.some.inj isDigit
    omega

theorem portFits_some_iff (nonempty : digits ≠ []) :
    PortFits (some digits) ↔ ∃ n, number? 10 digits = some n ∧ n ≤ 65535 := by
  simp only [number?_eq_some_iff nonempty]
  simp [PortFits, nonempty]

/-- A port is refused when it does not fit. -/
theorem readPort_eq_error_iff : readPort scheme port = .error e ↔ ¬PortFits port ∧ e = .badPort := by
  rw [readPort.eq_def]
  split
  case h_1 => simp [PortFits]
  case h_2 digits =>
    cases digits with
    | nil => simp [PortFits]
    | cons d rest =>
      have fits := portFits_some_iff (List.cons_ne_nil d rest)
      split
      case isTrue =>
        rw [fits]
        cases number? 10 (d :: rest) with
        | none => simp [eq_comm]
        | some n =>
          simp only [Option.some.injEq, exists_eq_left']
          split <;> simp [eq_comm, *]
      case isFalse other =>
        have unfit : ¬PortFits (some (d :: rest)) := by
          rw [fits]
          rintro ⟨n, read, -⟩
          refine other (List.all_eq_true.mpr fun c isIn => ?_)
          obtain ⟨value, counts⟩ := ((number?_eq_some_iff (List.cons_ne_nil d rest)).mp read).forall_counts c isIn
          exact isDecimal_of_counts counts
        simp [unfit, eq_comm]

/-! ## Refusals -/

variable {hosts : HostParser}

/-- What can be wrong with a host and a port. The host comes first: one without characters is empty, and any other is
read by the parser of hosts. -/
inductive Refused (hosts : HostParser) (host : List Char) (port : Option (List Char)) : Error → Prop
  | empty (isEmpty : host = []) : Refused hosts host port .emptyHost
  | host {e : Error} (nonempty : host ≠ []) (refused : hosts host = .error e) : Refused hosts host port e
  | port {read : Host} (nonempty : host ≠ []) (accepted : hosts host = .ok read) (unfit : ¬PortFits port) :
    Refused hosts host port .badPort

/-- No host is refused for the scheme in front of it. -/
theorem Host.plain_ne_noScheme (text : List Char) : plain text ≠ .error .noScheme := by
  intro refused
  rw [plain, parseWith.eq_def] at refused
  split at refused
  case h_1 =>
    split at refused
    · split at refused <;> cases refused
    · cases refused
  case h_2 =>
    simp only at refused
    split at refused
    · cases refused
    · cases refused
    · split at refused
      · split at refused <;> cases refused
      · cases refused

/-- Nothing is refused for its scheme, unless a host is. -/
theorem Refused.ne_noScheme (known : ∀ text, hosts text ≠ .error .noScheme) (refused : Refused hosts host port e) :
    e ≠ .noScheme := by
  rintro rfl
  cases refused with
  | host _ refused => exact known _ refused

/-- Behind a scheme that has a host, the host is read and then the port, neither of which the other parts depend on. -/
theorem parseSpecial_eq
    (addresses : Addresses ((text.dropWhile isSlash).takeWhile (!endsAuthority ·)) host port) :
    ∃ user path query fragment, parseSpecial hosts scheme text =
      if host = [] then .error .emptyHost
      else (hosts host).bind fun read =>
        (readPort scheme port).map fun number => ⟨scheme, user, read, number, path, query, fragment⟩ := by
  rw [parseSpecial]
  simp only
  rw [addresses_iff.mp addresses]
  simp only [List.isEmpty_iff]
  split
  case isTrue => exact ⟨"", [], none, none, rfl⟩
  case isFalse =>
    cases hosts host with
    | error e => exact ⟨"", [], none, none, rfl⟩
    | ok read =>
      cases readPort scheme port with
      | error e => exact ⟨"", [], none, none, rfl⟩
      | ok number => exact ⟨_, _, _, _, rfl⟩

/-- So what is read is refused for its host or its port only. -/
theorem parseSpecial_eq_error_iff
    (addresses : Addresses ((text.dropWhile isSlash).takeWhile (!endsAuthority ·)) host port) :
    parseSpecial hosts scheme text = .error e ↔ Refused hosts host port e := by
  obtain ⟨_, _, _, _, same⟩ : ∃ _ _ _ _, parseSpecial hosts scheme text = _ := parseSpecial_eq addresses
  rw [same]
  split
  case isTrue isEmpty =>
    rw [Except.error.injEq]
    constructor
    · rintro rfl
      exact .empty isEmpty
    · intro refused
      cases refused with
      | empty => rfl
      | host nonempty | port nonempty => exact absurd isEmpty nonempty
  case isFalse nonempty =>
    cases isRead : hosts host with
    | error first =>
      rw [Except.bind, Except.error.injEq]
      constructor
      · rintro rfl
        exact .host nonempty isRead
      · intro refused
        cases refused with
        | empty isEmpty => exact absurd isEmpty nonempty
        | host _ refused => exact Except.error.inj (isRead.symm.trans refused)
        | port _ accepted => cases isRead.symm.trans accepted
    | ok read =>
      have portRefused : Refused hosts host port e ↔ readPort scheme port = .error e := by
        rw [readPort_eq_error_iff]
        constructor
        · intro refused
          cases refused with
          | empty isEmpty => exact absurd isEmpty nonempty
          | host _ refused => cases isRead.symm.trans refused
          | port _ _ unfit => exact ⟨unfit, rfl⟩
        · rintro ⟨unfit, rfl⟩
          exact .port nonempty isRead unfit
      rw [portRefused, Except.bind]
      cases readPort scheme port <;> simp [Except.map]

/-- And what is accepted has that host. -/
theorem host_of_parseSpecial {url : Url}
    (addresses : Addresses ((text.dropWhile isSlash).takeWhile (!endsAuthority ·)) host port)
    (read : parseSpecial hosts scheme text = .ok url) : url.scheme = scheme ∧ hosts host = .ok url.host := by
  obtain ⟨_, _, _, _, same⟩ : ∃ _ _ _ _, parseSpecial hosts scheme text = _ := parseSpecial_eq addresses
  rw [same] at read
  split at read
  · cases read
  · cases isRead : hosts host with
    | error e =>
      rw [isRead] at read
      cases read
    | ok inner =>
      rw [isRead, Except.bind] at read
      cases isNumber : readPort scheme port with
      | error e =>
        rw [isNumber] at read
        cases read
      | ok number =>
        rw [isNumber] at read
        obtain rfl := Except.ok.inj read
        exact ⟨rfl, rfl⟩

/-! ## Schemes -/

/-- What counts of a text behind a scheme: no control characters or blanks at its end, no tabs and line breaks. -/
def tidy (rest : List Char) : List Char :=
  ((rest.reverse.dropWhile fun c => c.toNat ≤ 0x20).reverse).filter fun c => c ≠ '\t' ∧ c ≠ '\n' ∧ c ≠ '\r'

/-- What names the host behind a scheme: any number of slashes is passed, and one of the marks of a path, a query or a
fragment ends it. -/
def authority (rest : List Char) : List Char :=
  ((tidy rest).dropWhile isSlash).takeWhile (!endsAuthority ·)

/-- The two schemes that a transport speaks. -/
def IsSpoken (scheme : String) : Prop := scheme = "http" ∨ scheme = "https"

/-- Where nothing is dropped of the front, nothing of it is dropped from behind the rest. -/
theorem dropWhile_reverse_append {p : Char → Bool} {front : List Char} (kept : front.reverse.dropWhile p = front.reverse)
    (rest : List Char) :
    ((front ++ rest).reverse.dropWhile p).reverse = front ++ (rest.reverse.dropWhile p).reverse := by
  rw [List.reverse_append, List.dropWhile_append]
  split
  case isTrue isEmpty => simp [kept, List.isEmpty_iff.mp isEmpty]
  case isFalse => simp

/-- Slashes in front are passed. -/
theorem parseSpecial_slash (hosts : HostParser) (scheme : String) (text : List Char) :
    parseSpecial hosts scheme ('/' :: text) = parseSpecial hosts scheme text := by
  rw [parseSpecial, parseSpecial, List.dropWhile_cons_of_pos rfl]

/-- A text with a spoken scheme is read as what stands behind that. -/
theorem parse_of_isSpoken (hosts : HostParser) (spoken : IsSpoken scheme) (rest : String) :
    parse hosts (scheme ++ "://" ++ rest) = (parseSpecial hosts scheme (tidy rest.toList)).map .special := by
  have edges : (scheme ++ "://").toList.dropWhile (fun c => c.toNat ≤ 0x20) = (scheme ++ "://").toList ∧
      (scheme ++ "://").toList.reverse.dropWhile (fun c => c.toNat ≤ 0x20) = (scheme ++ "://").toList.reverse ∧
      (scheme ++ "://").toList.isEmpty = false := by
    rcases spoken with rfl | rfl <;> exact ⟨rfl, rfl, rfl⟩
  have noBreaks : ((scheme ++ "://").toList.filter fun c => c ≠ '\t' ∧ c ≠ '\n' ∧ c ≠ '\r') =
      (scheme ++ "://").toList := by
    rcases spoken with rfl | rfl <;> rfl
  have split (text : List Char) :
      splitScheme? ((scheme ++ "://").toList ++ text) = some (scheme, '/' :: '/' :: text) ∧
        (defaultPort? scheme).isSome := by
    rcases spoken with rfl | rfl <;> exact ⟨rfl, rfl⟩
  obtain ⟨port, special⟩ := Option.isSome_iff_exists.mp (split []).2
  rw [parse, String.toList_append, List.dropWhile_append, edges.1, edges.2.2]
  simp only [Bool.false_eq_true, if_false]
  rw [dropWhile_reverse_append edges.2.1, List.filter_append, noBreaks, (split _).1]
  simp only [special, parseSpecial_slash, tidy]

end CallWeave.Url
