import Mathlib.Data.List.Basic
import Avatar.MaxAge
import Avatar.Proofs.Matching
import Avatar.Text.Hex

/-! # What a Cache-Control value asks for, token by token

    The pattern is searched from left to right, with a separator as part
    of what it matches.  The same is found by cutting the value into its
    tokens and reading each of them from its start (`search_eq_findSome?`).
    So a name that only ends like the directive's own never counts, and
    the first token that asks for a number decides (`read_by_tokens`). -/

namespace Avatar.MaxAge

/-! ## Tokens -/

/-- The longest runs of code points that are neither commas nor white
    space. -/
def tokens (value : Text) : List Text := (value.splitOnP isSeparator).filter (!·.isEmpty)

/-- A token asks for a number: it starts with the name of the directive
    and at least one digit, and the digits are all that stand there in a
    row. -/
def AsksFor (token digits : Text) : Prop :=
  digits ≠ [] ∧ (∀ c ∈ digits, c.isDecimal = true)
    ∧ ∃ rest, token = Text.ofString "max-age=" ++ (digits ++ rest)
      ∧ ∀ c, rest.head? = some c → c.isDecimal = false

/-- The digits of the number that a token asks for. -/
def asked? (token : Text) : Option Text :=
  (Text.after? "max-age=" token).bind fun rest =>
    (some (rest.takeWhile CodePoint.isDecimal)).filter (!·.isEmpty)

variable {token digits value : Text} {c : CodePoint}

theorem asked?_eq_some_iff : asked? token = some digits ↔ AsksFor token digits := by
  rw [asked?, Option.bind_eq_some_iff]
  constructor
  · rintro ⟨rest, hrest, hdigits⟩
    obtain ⟨hsome, hne⟩ := Option.filter_eq_some_iff.mp hdigits
    obtain rfl := Option.some.inj hsome
    refine ⟨by simpa using hne, List.all_eq_true.mp List.all_takeWhile,
      rest.dropWhile CodePoint.isDecimal, ?_, ?_⟩
    · rw [List.takeWhile_append_dropWhile]
      exact Text.after?_eq_some_iff.mp hrest
    · intro c hc
      have hfirst := List.head?_dropWhile_not CodePoint.isDecimal rest
      rw [hc] at hfirst
      exact hfirst
  · rintro ⟨hne, hall, rest, rfl, hfirst⟩
    refine ⟨digits ++ rest, Text.after?_eq_some_iff.mpr rfl, ?_⟩
    have hrest : rest.takeWhile CodePoint.isDecimal = [] := by
      cases rest with
      | nil => rfl
      | cons c rest => exact List.takeWhile_cons_of_neg (Bool.eq_false_iff.mp (hfirst c rfl))
    rw [List.takeWhile_append_of_pos hall, hrest, List.append_nil]
    exact Option.filter_eq_some_iff.mpr ⟨rfl, by simpa using hne⟩

theorem asked?_eq_none_iff : asked? token = none ↔ ∀ digits, ¬ AsksFor token digits := by
  simp only [Option.eq_none_iff_forall_ne_some, ne_eq, asked?_eq_some_iff]

/-! ## Separators -/

/-- The code points of white space. -/
def blanks : List Nat := [
  0x09, 0x0A, 0x0B, 0x0C, 0x0D, 0x1C, 0x1D, 0x1E, 0x1F, 0x20, 0x85, 0xA0, 0x1680, 0x2000, 0x2001,
  0x2002, 0x2003, 0x2004, 0x2005, 0x2006, 0x2007, 0x2008, 0x2009, 0x200A, 0x2028, 0x2029, 0x202F,
  0x205F, 0x3000]

theorem mem_blanks_of_isBlank (h : c.isBlank = true) : c.val ∈ blanks := by
  simp only [CodePoint.isBlank, Bool.or_eq_true, Bool.and_eq_true, decide_eq_true_eq,
    beq_iff_eq] at h
  simp only [blanks, List.mem_cons, List.not_mem_nil, or_false]
  omega

/-- No separator is a digit of any script. -/
theorem isDecimal_of_isSeparator (h : isSeparator c = true) : c.isDecimal = false := by
  have hcomma : (CodePoint.ofChar ',').val ∉ blanks := by decide
  have hapart : ∀ n ∈ (CodePoint.ofChar ',').val :: blanks,
      (digitZeros.find? fun start => start ≤ n && n ≤ start + 9) = none := by decide +kernel
  have hmem : c.val ∈ (CodePoint.ofChar ',').val :: blanks := by
    rw [isSeparator, Bool.or_eq_true, decide_eq_true_eq] at h
    rcases h with rfl | hblank
    · exact List.mem_cons_self
    · exact List.mem_cons_of_mem _ (mem_blanks_of_isBlank hblank)
  rw [CodePoint.isDecimal, CodePoint.digitValue?, hapart c.val hmem]
  rfl

theorem isSeparator_of_mem_name (h : c ∈ Text.ofString "max-age=") : isSeparator c = false := by
  have hname : ∀ c ∈ Text.ofString "max-age=", isSeparator c = false := by decide
  exact hname c h

/-- No digit is taken from behind a separator. -/
theorem takeWhile_append_separator (h : isSeparator c = true) (s rest : Text) :
    (s ++ c :: rest).takeWhile CodePoint.isDecimal = s.takeWhile CodePoint.isDecimal := by
  induction s with
  | nil => exact List.takeWhile_cons_of_neg (Bool.eq_false_iff.mp (isDecimal_of_isSeparator h))
  | cons d s ih => rw [List.cons_append, List.takeWhile_cons, List.takeWhile_cons, ih]

/-- What stands behind a separator does not change what is asked before
    it. -/
theorem asked?_append_separator (h : isSeparator c = true) (token rest : Text) :
    asked? (token ++ c :: rest) = asked? token := by
  cases hname : Text.after? "max-age=" token with
  | some behind =>
      obtain rfl := Text.after?_eq_some_iff.mp hname
      have hlonger : Text.after? "max-age=" (Text.ofString "max-age=" ++ behind ++ c :: rest)
          = some (behind ++ c :: rest) :=
        Text.after?_eq_some_iff.mpr (List.append_assoc ..)
      rw [asked?, asked?, hlonger, hname, Option.bind_some, Option.bind_some,
        takeWhile_append_separator h]
  | none =>
      cases hlonger : Text.after? "max-age=" (token ++ c :: rest) with
      | none => rw [asked?, asked?, hname, hlonger]
      | some behind =>
          -- the name would reach as far as the separator
          exfalso
          rcases List.append_eq_append_iff.mp (Text.after?_eq_some_iff.mp hlonger) with
            ⟨more, hmore, hrest⟩ | ⟨more, hmore, -⟩
          · cases more with
            | nil =>
                have htoken : token = Text.ofString "max-age=" ++ [] := by
                  rw [hmore, List.append_nil, List.append_nil]
                rw [Text.after?_eq_some_iff.mpr htoken] at hname
                exact nomatch hname
            | cons d more =>
                obtain ⟨rfl, -⟩ := List.cons.inj hrest
                have hmem : c ∈ Text.ofString "max-age=" :=
                  hmore ▸ List.mem_append_right token List.mem_cons_self
                rw [isSeparator_of_mem_name hmem] at h
                exact nomatch h
          · rw [Text.after?_eq_some_iff.mpr hmore] at hname
            exact nomatch hname

/-! ## The search -/

/-- The digits are taken up to the first code point that is none. -/
theorem run_number (isStart : Bool) (s : Text) :
    number.run (fun later => some (Place.upTo ⟨isStart, s⟩ later)) ⟨isStart, s⟩
      = (some (s.takeWhile CodePoint.isDecimal)).filter (!·.isEmpty) := by
  cases s with
  | nil => rfl
  | cons c rest =>
      show (if c.isDecimal then (Pattern.many (.point CodePoint.isDecimal)).run
          (fun later => some (Place.upTo ⟨isStart, c :: rest⟩ later)) ⟨false, rest⟩ else none) = _
      cases hc : c.isDecimal with
      | false =>
          rw [List.takeWhile_cons_of_neg (Bool.eq_false_iff.mp hc)]
          rfl
      | true =>
          have hsplit : c :: rest = (c :: rest.takeWhile CodePoint.isDecimal)
              ++ rest.dropWhile CodePoint.isDecimal := by
            rw [List.cons_append, List.takeWhile_append_dropWhile]
          rw [if_pos rfl, Pattern.run_many_point (fun _ => rfl), List.takeWhile_cons_of_pos hc]
          conv => lhs; rw [hsplit]
          rw [Place.upTo_of_append isStart ⟨_, rest.dropWhile CodePoint.isDecimal⟩]
          rfl

/-- Behind the name of the directive its digits are read. -/
theorem run_name (isStart : Bool) (s : Text) :
    (Pattern.literal "max-age=").run
        (fun place => number.run (fun later => some (place.upTo later)) place) ⟨isStart, s⟩
      = asked? s := by
  rw [Pattern.run_literal, asked?]
  congr 1
  funext rest
  exact run_number _ rest

/-- The search tries the start of the value, and then goes from separator
    to separator. -/
theorem searchFrom_cons (isStart : Bool) (c : CodePoint) (rest : Text) :
    introduction.searchFrom number isStart (c :: rest)
      = ((if isStart then asked? (c :: rest) else none).or
          (if isSeparator c then asked? rest else none)).or
        (introduction.searchFrom number false rest) := by
  have hattempt : introduction.behind number ⟨isStart, c :: rest⟩
      = (if isStart then asked? (c :: rest) else none).or
        (if isSeparator c then asked? rest else none) := by
    rw [← run_name isStart, ← run_name false rest]
    rfl
  rw [Pattern.searchFrom, hattempt]

theorem searchFrom_nil (isStart : Bool) : introduction.searchFrom number isStart [] = none := by
  cases isStart <;> rfl

theorem searchFrom_start (s : Text) :
    introduction.searchFrom number true s
      = (asked? s).or (introduction.searchFrom number false s) := by
  cases s with
  | nil => rfl
  | cons c rest =>
      rw [searchFrom_cons, searchFrom_cons, if_pos rfl, Option.or_assoc]
      rfl

/-- What is searched is the first piece between separators that asks for a
    number.  The piece in which the search stands has been gone through up
    to `token`. -/
theorem searchFrom_pieces {token : Text} (htoken : ∀ c ∈ token, isSeparator c = false)
    (s : Text) :
    (asked? (token ++ s)).or (introduction.searchFrom number false s)
      = ((token ++ s).splitOnP isSeparator).findSome? asked? := by
  induction s generalizing token with
  | nil =>
      rw [List.append_nil, searchFrom_nil, Option.or_none, List.splitOnP_eq_singleton htoken,
        List.findSome?_singleton]
  | cons c s ih =>
      rw [searchFrom_cons]
      cases hc : isSeparator c with
      | true =>
          have hrest := ih (List.forall_mem_nil _)
          rw [List.nil_append] at hrest
          rw [asked?_append_separator hc, List.splitOnP_append_cons token s hc,
            List.splitOnP_eq_singleton htoken, List.singleton_append, List.findSome?_cons, ← hrest]
          cases asked? token <;> rfl
      | false =>
          have hlonger : ∀ d ∈ token ++ [c], isSeparator d = false := by
            rw [List.forall_mem_append]
            exact ⟨htoken, fun d hd => List.mem_singleton.mp hd ▸ hc⟩
          have hmoved := ih hlonger
          rw [List.append_assoc, List.singleton_append] at hmoved
          exact hmoved

/-- The search finds what the first token asks for that asks for a
    number. -/
theorem search_eq_findSome? (value : Text) :
    introduction.search number value = (tokens value).findSome? asked? := by
  have hpieces := searchFrom_pieces (List.forall_mem_nil _) value
  rw [List.nil_append] at hpieces
  rw [Pattern.search, searchFrom_start, hpieces, tokens]
  generalize value.splitOnP isSeparator = pieces
  induction pieces with
  | nil => rfl
  | cons piece pieces ih =>
      -- an empty piece asks for nothing
      cases piece with
      | nil => exact ih
      | cons c piece =>
          rw [List.findSome?_cons, ih]
          exact List.findSome?_cons.symm

/-! ## The number of seconds -/

/-- A natural number is written in digits that stand for it. -/
theorem ofDigits_ofNat (n : Nat) :
    ofDigits ((Text.ofNat n).filterMap CodePoint.digitValue?) = n
      ∧ ∀ c ∈ Text.ofNat n, c.isDecimal = true := by
  have hdigit : ∀ d : Fin 10, (CodePoint.hexDigit d).digitValue? = some d.val := by decide
  obtain ⟨digits, -, hlt, htext, hvalue⟩ :=
    Text.exists_digits (show 1 < 10 by decide) (by decide) n
  have hread : (digits.map CodePoint.hexDigit).filterMap CodePoint.digitValue? = digits := by
    rw [List.filterMap_map]
    calc digits.filterMap (CodePoint.digitValue? ∘ CodePoint.hexDigit)
        = digits.filterMap some := List.filterMap_congr fun d hd => hdigit ⟨d, hlt d hd⟩
      _ = digits := List.filterMap_some
  rw [Text.ofNat, htext, hread]
  refine ⟨hvalue, fun c hc => ?_⟩
  obtain ⟨d, hd, rfl⟩ := List.mem_map.mp hc
  rw [CodePoint.isDecimal, hdigit ⟨d, hlt d hd⟩]
  rfl

/-! ## What is read -/

/-- A token asks for a number, and none that stands before it does. -/
def FirstAsks (value token digits : Text) : Prop :=
  ∃ before after, tokens value = before ++ token :: after ∧ AsksFor token digits
    ∧ ∀ earlier ∈ before, ∀ other, ¬ AsksFor earlier other

theorem search_eq_some_iff :
    introduction.search number value = some digits ↔ ∃ token, FirstAsks value token digits := by
  rw [search_eq_findSome?, List.findSome?_eq_some_iff]
  simp only [asked?_eq_some_iff, asked?_eq_none_iff]
  constructor
  · rintro ⟨before, token, after, hsplit, hasks, hbefore⟩
    exact ⟨token, before, after, hsplit, hasks, hbefore⟩
  · rintro ⟨token, before, after, hsplit, hasks, hbefore⟩
    exact ⟨before, token, after, hsplit, hasks, hbefore⟩

theorem search_eq_none_iff :
    introduction.search number value = none ↔
      ∀ token ∈ tokens value, ∀ digits, ¬ AsksFor token digits := by
  rw [search_eq_findSome?, List.findSome?_eq_none_iff]
  simp only [asked?_eq_none_iff]

/-- A token that has another name before its first equals sign asks for
    nothing. -/
theorem not_asksFor_of_name {name argument : Text} (hname : CodePoint.ofChar '=' ∉ name)
    (hother : name ≠ "max-age") : ¬ AsksFor (name ++ Text.ofString "=" ++ argument) digits := by
  rintro ⟨-, -, rest, htoken, -⟩
  have hsplit : name ++ CodePoint.ofChar '=' :: argument
      = Text.ofString "max-age" ++ CodePoint.ofChar '=' :: (digits ++ rest) := by
    rw [← List.singleton_append, ← List.append_assoc]
    exact htoken
  have hcut := congrArg (Text.cut '=') hsplit
  rw [Text.cut_append_cons hname, Text.cut_append_cons (by decide)] at hcut
  exact hother (Prod.mk.inj hcut).1

/-- The tokens of a value that is written as the service writes its own. -/
theorem tokens_public (hdecimal : ∀ c ∈ digits, c.isDecimal = true) :
    tokens (Text.ofString "public, max-age=" ++ digits)
      = [Text.ofString "public", Text.ofString "max-age=" ++ digits] := by
  have hpublic : ∀ c ∈ Text.ofString "public", isSeparator c = false := by decide
  have hasking : ∀ c ∈ Text.ofString "max-age=" ++ digits, isSeparator c = false := by
    rw [List.forall_mem_append]
    refine ⟨fun c => isSeparator_of_mem_name, fun c hc => ?_⟩
    refine Bool.eq_false_iff.mpr fun hsep => ?_
    have hdigit := hdecimal c hc
    rw [isDecimal_of_isSeparator hsep] at hdigit
    exact nomatch hdigit
  have hsplit : Text.ofString "public, max-age=" ++ digits = Text.ofString "public"
      ++ CodePoint.ofChar ',' :: ([] ++ CodePoint.ofChar ' ' ::
        (Text.ofString "max-age=" ++ digits)) := rfl
  rw [hsplit, tokens, List.splitOnP_append_cons _ _ (by decide), List.splitOnP_append_cons _ _
    (by decide), List.splitOnP_eq_singleton hpublic, List.splitOnP_eq_singleton hasking]
  rfl

theorem ofHeader_of_firstAsks (h : FirstAsks value token digits) :
    ofHeader (some value) = ofDigitText digits := by
  rw [ofHeader, ofCacheControl, search_eq_some_iff.mpr ⟨token, h⟩]

theorem ofHeader_of_none_asks (h : ∀ token ∈ tokens value, ∀ digits, ¬ AsksFor token digits) :
    ofHeader (some value) = .ok 43200 := by
  rw [ofHeader, ofCacheControl, search_eq_none_iff.mpr h]
  rfl

theorem ofDigitText_eq_error_iff {failure : Failure} :
    ofDigitText digits = .error failure ↔
      4300 < digits.length ∧ failure = .integerTooLong digits.length := by
  rw [ofDigitText]
  split
  · rename_i hle
    refine iff_of_false (fun h => nomatch h) fun h => ?_
    exact absurd h.1 (Nat.not_lt.mpr hle)
  · rename_i hlong
    constructor
    · intro h
      exact ⟨Nat.lt_of_not_le hlong, (Except.error.inj h).symm⟩
    · rintro ⟨-, rfl⟩
      rfl

/-- A number behind the words that the service writes is asked for. -/
theorem firstAsks_public (n : Nat) :
    FirstAsks (Text.ofString "public, max-age=" ++ Text.ofNat n)
      (Text.ofString "max-age=" ++ Text.ofNat n) (Text.ofNat n) := by
  obtain ⟨-, hdecimal⟩ := ofDigits_ofNat n
  have hne : Text.ofNat n ≠ [] := by
    rw [Text.ofNat, Ne, List.map_eq_nil_iff]
    exact Nat.toDigits_ne_nil
  refine ⟨[Text.ofString "public"], [], tokens_public hdecimal,
    ⟨hne, hdecimal, [], by rw [List.append_nil], fun c hc => nomatch hc⟩, ?_⟩
  intro earlier hearlier digits
  obtain rfl := List.mem_singleton.mp hearlier
  rintro ⟨-, -, rest, htoken, -⟩
  exact nomatch (List.cons.inj htoken).1

/-- How the number of seconds is read off a value. -/
structure IsReadByTokens (value : Text) : Prop where
  /-- The first token decides that asks for a number, which has all the
      digits in a row. -/
  first (token digits : Text) : FirstAsks value token digits → digits.length ≤ 4300 →
    ofHeader (some value) = .ok (ofDigits (digits.filterMap CodePoint.digitValue?))
  /-- If no token asks for one, the number is the standard one. -/
  standard : (∀ token ∈ tokens value, ∀ digits, ¬ AsksFor token digits) →
    ofHeader (some value) = .ok 43200
  /-- So it is if there is no value, or an empty one. -/
  missing : ofHeader none = .ok 43200 ∧ ofHeader (some []) = .ok 43200
  /-- Only too many digits make the value unreadable. -/
  unreadable (failure : Failure) : ofHeader (some value) = .error failure ↔
    ∃ token digits, FirstAsks value token digits ∧ 4300 < digits.length
      ∧ failure = .integerTooLong digits.length
  /-- A token with another name before its first equals sign could as well
      be left out. -/
  others (name argument : Text) (before after : List Text) (shorter : Text) :
    CodePoint.ofChar '=' ∉ name → name ≠ "max-age" →
    tokens value = before ++ (name ++ Text.ofString "=" ++ argument) :: after →
    tokens shorter = before ++ after → ofHeader (some value) = ofHeader (some shorter)
  /-- The way in which the service writes a number is read back. -/
  written (n : Nat) : (Text.ofNat n).length ≤ 4300 →
    ofHeader (some (Text.ofString "public, max-age=" ++ Text.ofNat n)) = .ok n

/-- The first token with the name of the directive and a digit decides how
    long an answer is kept. -/
theorem read_by_tokens (value : Text) : IsReadByTokens value := by
  constructor
  case first =>
    intro token digits hasks hlength
    rw [ofHeader_of_firstAsks hasks]
    exact if_pos hlength
  case standard => exact ofHeader_of_none_asks
  case missing => exact ⟨rfl, rfl⟩
  case unreadable =>
    intro failure
    constructor
    · intro hfails
      cases hsearch : introduction.search number value with
      | none =>
          rw [ofHeader_of_none_asks (search_eq_none_iff.mp hsearch)] at hfails
          exact nomatch hfails
      | some digits =>
          obtain ⟨token, hasks⟩ := search_eq_some_iff.mp hsearch
          rw [ofHeader_of_firstAsks hasks] at hfails
          exact ⟨token, digits, hasks, ofDigitText_eq_error_iff.mp hfails⟩
    · rintro ⟨token, digits, hasks, hlong⟩
      rw [ofHeader_of_firstAsks hasks]
      exact ofDigitText_eq_error_iff.mpr hlong
  case others =>
    intro name argument before after shorter hname hother htokens hshorter
    have hnothing : asked? (name ++ Text.ofString "=" ++ argument) = none :=
      asked?_eq_none_iff.mpr fun digits => not_asksFor_of_name hname hother
    rw [ofHeader, ofHeader, ofCacheControl, ofCacheControl, search_eq_findSome?,
      search_eq_findSome?, htokens, hshorter, List.findSome?_append, List.findSome?_append,
      List.findSome?_cons_of_isNone (by rw [hnothing]; rfl)]
  case written =>
    intro n hlength
    rw [ofHeader_of_firstAsks (firstAsks_public n), ofDigitText, (ofDigits_ofNat n).1]
    exact if_pos hlength

/-- A number in digits of another script, behind a directive that only ends
    like the one that counts. -/
example : ofHeader (some "public, s-max-age=5 max-age=٣٠s") = .ok 30 := by rfl

end Avatar.MaxAge
