import Avatar.Text

/-! # UTF-8

    Encoding writes one to four octets for each code point and refuses a
    surrogate.  Decoding is a machine that takes one octet at a time; it
    leaves a sequence at the first octet that rules the sequence out, so
    what it gives up is always a longest ill-formed beginning.  A strict
    reader refuses the octets as soon as one sequence was given up, a
    lossy one puts U+FFFD in its place. -/

namespace Avatar

/-- A sequence of octets. -/
abbrev Bytes := List UInt8

/-- Where a text first holds surrogates: how many code points stand
    before them, the first of them, and how many follow one another. -/
structure SurrogateRun where
  position : Nat
  first : CodePoint
  length : Nat
deriving DecidableEq

namespace CodePoint

/-- One to four octets; a surrogate takes three, like its neighbours. -/
def utf8 (c : CodePoint) : Bytes :=
  let n := c.val
  let tail (m : Nat) : UInt8 := (0x80 + m % 0x40).toUInt8
  if n < 0x80 then [n.toUInt8]
  else if n < 0x800 then [(0xC0 + n / 0x40).toUInt8, tail n]
  else if n < 0x10000 then [(0xE0 + n / 0x1000).toUInt8, tail (n / 0x40), tail n]
  else [(0xF0 + n / 0x40000).toUInt8, tail (n / 0x1000), tail (n / 0x40), tail n]

theorem utf8_ne_nil (c : CodePoint) : c.utf8 ≠ [] := by
  simp only [utf8]
  split
  · exact List.cons_ne_nil _ _
  · split
    · exact List.cons_ne_nil _ _
    · split <;> exact List.cons_ne_nil _ _

/-- The octets of a code point tell which one it is and where they end. -/
theorem utf8_append_inj {c d : CodePoint} {rest rest' : Bytes}
    (h : c.utf8 ++ rest = d.utf8 ++ rest') : c = d ∧ rest = rest' := by
  have hval : c.val = d.val := by
    have hc := c.isLt
    have hd := d.isLt
    simp only [utf8] at h
    -- the first octet tells the lengths apart, and in each length the bits make up the number
    repeat' split at h
    all_goals
      simp only [List.cons_append, List.nil_append, List.cons.injEq, ← UInt8.toNat_inj,
        UInt8.toNat_ofNat', Nat.toUInt8_eq] at h
      omega
  obtain rfl : c = d := by
    cases c
    cases d
    cases hval
    rfl
  exact ⟨rfl, List.append_cancel_left h⟩

end CodePoint

namespace Text

/-- The octets of a text, a surrogate taking three like its neighbours. -/
def utf8 (s : Text) : Bytes := s.flatMap CodePoint.utf8

/-- Octets tell which text they are of. -/
theorem utf8_inj {s t : Text} : s.utf8 = t.utf8 ↔ s = t := by
  constructor
  · intro h
    induction s generalizing t with
    | nil =>
        cases t with
        | nil => rfl
        | cons d t => exact absurd (List.append_eq_nil_iff.mp h.symm).1 d.utf8_ne_nil
    | cons c s ih =>
        cases t with
        | nil => exact absurd (List.append_eq_nil_iff.mp h).1 c.utf8_ne_nil
        | cons d t =>
            obtain ⟨rfl, hrest⟩ := CodePoint.utf8_append_inj h
            rw [ih hrest]
  · exact congrArg utf8

/-- The first surrogates of a text, if it has any. -/
def surrogates? (s : Text) : Option SurrogateRun :=
  let before := s.takeWhile (!·.isSurrogate)
  match s.drop before.length with
  | [] => none
  | c :: rest => some ⟨before.length, c, (rest.takeWhile CodePoint.isSurrogate).length + 1⟩

/-- A text has no surrogates if none of its code points is one. -/
theorem surrogates?_eq_none_iff {s : Text} :
    s.surrogates? = none ↔ ∀ c ∈ s, c.isSurrogate = false := by
  induction s with
  | nil => exact ⟨fun _ c hc => (nomatch hc), fun _ => rfl⟩
  | cons c rest ih =>
      cases hc : c.isSurrogate with
      | true =>
          constructor
          · intro h
            simp [surrogates?, hc] at h
          · intro h
            have hfirst := h c List.mem_cons_self
            rw [hc] at hfirst
            exact nomatch hfirst
      | false =>
          have hrest : surrogates? (c :: rest) = none ↔ surrogates? rest = none := by
            simp only [surrogates?, List.takeWhile_cons, hc, Bool.not_false, if_true,
              List.length_cons, List.drop_succ_cons]
            cases rest.drop (rest.takeWhile (!·.isSurrogate)).length <;> simp
          rw [hrest, ih]
          simp [hc]

end Text

namespace Utf8

/-- A sequence whose last octets are still to come: the bits read so far,
    the range that the next octet has to be in, and how many octets are
    missing after that one. -/
structure Pending where
  bits : Nat
  low : UInt8
  high : UInt8
  later : Nat

/-- What a first octet announces. -/
inductive Lead
  | whole (c : CodePoint)
  | start (pending : Pending)
  | invalid

/-- Reads the first octet of a sequence.  `surrogates` says whether the
    three octets of a surrogate count as a sequence. -/
def lead (surrogates : Bool) (b : UInt8) : Lead :=
  if b < 0x80 then .whole (.ofNat b.toNat)
  else if b < 0xC2 then .invalid
  else if b < 0xE0 then .start ⟨b.toNat % 0x20, 0x80, 0xBF, 0⟩
  else if b = 0xE0 then .start ⟨0, 0xA0, 0xBF, 1⟩
  else if b = 0xED then .start ⟨0xD, 0x80, if surrogates then 0xBF else 0x9F, 1⟩
  else if b < 0xF0 then .start ⟨b.toNat % 0x10, 0x80, 0xBF, 1⟩
  else if b = 0xF0 then .start ⟨0, 0x90, 0xBF, 2⟩
  else if b < 0xF4 then .start ⟨b.toNat % 0x8, 0x80, 0xBF, 2⟩
  else if b = 0xF4 then .start ⟨4, 0x80, 0x8F, 2⟩
  else .invalid

/-- What was read, latest first, with `none` for each ill-formed
    beginning that was given up; and the sequence under way. -/
structure Progress where
  read : List (Option CodePoint)
  pending : Option Pending

/-- Takes an octet between two sequences. -/
def Progress.startWith (surrogates : Bool) (read : List (Option CodePoint)) (b : UInt8) :
    Progress :=
  match lead surrogates b with
  | .whole c => ⟨some c :: read, none⟩
  | .start pending => ⟨read, some pending⟩
  | .invalid => ⟨none :: read, none⟩

/-- Takes the next octet. -/
def Progress.step (surrogates : Bool) (progress : Progress) (b : UInt8) : Progress :=
  match progress.pending with
  | none => .startWith surrogates progress.read b
  | some p =>
    if p.low ≤ b && b ≤ p.high then
      let bits := p.bits * 0x40 + b.toNat % 0x40
      match p.later with
      | 0 => ⟨some (.ofNat bits) :: progress.read, none⟩
      | later + 1 => ⟨progress.read, some ⟨bits, 0x80, 0xBF, later⟩⟩
    else .startWith surrogates (none :: progress.read) b

/-- The code points of some octets, with `none` for each ill-formed
    beginning. -/
def scan (surrogates : Bool) (bytes : Bytes) : List (Option CodePoint) :=
  let progress := bytes.foldl (Progress.step surrogates) ⟨[], none⟩
  match progress.pending with
  | none => progress.read.reverse
  | some _ => (none :: progress.read).reverse

/-- The text that is encoded by the octets, if all of them are
    well-formed. -/
def decode? (bytes : Bytes) : Option Text := (scan false bytes).mapM id

/-- As `decode?`, but the three octets of a surrogate are read as that
    surrogate. -/
def decodeWithSurrogates? (bytes : Bytes) : Option Text := (scan true bytes).mapM id

/-- The text that is encoded by the octets, with U+FFFD in the place of
    every ill-formed beginning. -/
def decodeLossy (bytes : Bytes) : Text :=
  (scan false bytes).map (·.getD .replacement)

theorem Progress.read_step (surrogates : Bool) (progress : Progress) (b : UInt8) :
    ∃ more, (progress.step surrogates b).read = more ++ progress.read := by
  have hstart (read : List (Option CodePoint)) :
      ∃ more, (startWith surrogates read b).read = more ++ read := by
    rw [startWith]
    cases lead surrogates b with
    | whole c => exact ⟨[some c], rfl⟩
    | start pending => exact ⟨[], rfl⟩
    | invalid => exact ⟨[none], rfl⟩
  rw [step]
  cases progress.pending with
  | none => exact hstart progress.read
  | some p =>
      dsimp only
      split
      · cases p.later with
        | zero => exact ⟨[_], rfl⟩
        | succ later => exact ⟨[], rfl⟩
      · obtain ⟨more, hmore⟩ := hstart (none :: progress.read)
        exact ⟨more ++ [none], by rw [hmore, List.append_assoc]; rfl⟩

/-- Octets only add to what was read. -/
theorem Progress.read_foldl (surrogates : Bool) (progress : Progress) (bytes : Bytes) :
    ∃ more, (bytes.foldl (Progress.step surrogates) progress).read = more ++ progress.read := by
  induction bytes generalizing progress with
  | nil => exact ⟨[], rfl⟩
  | cons b rest ih =>
      obtain ⟨first, hfirst⟩ := progress.read_step surrogates b
      obtain ⟨more, hmore⟩ := ih (progress.step surrogates b)
      refine ⟨more ++ first, ?_⟩
      rw [List.foldl_cons, hmore, hfirst, List.append_assoc]

/-- Further octets add to what was read before them, except for a sequence
    that was given up only because the octets ended. -/
theorem scan_append_cases (surrogates : Bool) (bytes more : Bytes) :
    (∃ rest, scan surrogates (bytes ++ more) = scan surrogates bytes ++ rest)
      ∨ ∃ shared rest, scan surrogates bytes = shared ++ [none]
        ∧ scan surrogates (bytes ++ more) = shared ++ rest := by
  have hscan : ∃ rest, scan surrogates (bytes ++ more)
      = (bytes.foldl (Progress.step surrogates) ⟨[], none⟩).read.reverse ++ rest := by
    obtain ⟨read, hread⟩ := Progress.read_foldl surrogates
      (bytes.foldl (Progress.step surrogates) ⟨[], none⟩) more
    rw [scan, List.foldl_append]
    split
    · exact ⟨read.reverse, by rw [hread, List.reverse_append]⟩
    · refine ⟨read.reverse ++ [none], ?_⟩
      rw [hread, List.reverse_cons, List.reverse_append, List.append_assoc]
  obtain ⟨rest, hrest⟩ := hscan
  rw [hrest, scan]
  cases (bytes.foldl (Progress.step surrogates) ⟨[], none⟩).pending with
  | none => exact .inl ⟨rest, rfl⟩
  | some pending => exact .inr ⟨_, rest, List.reverse_cons, rfl⟩

theorem decodeLossy_append_cases (bytes more : Bytes) :
    (∃ rest, decodeLossy (bytes ++ more) = decodeLossy bytes ++ rest)
      ∨ ∃ shared rest, decodeLossy bytes = shared ++ [.replacement]
        ∧ decodeLossy (bytes ++ more) = shared ++ rest := by
  simp only [decodeLossy]
  rcases scan_append_cases false bytes more with ⟨rest, h⟩ | ⟨shared, rest, hbytes, h⟩
  · exact .inl ⟨_, by rw [h, List.map_append]⟩
  · refine .inr ⟨_, _, ?_, by rw [h, List.map_append]⟩
    rw [hbytes, List.map_append]
    rfl

theorem foldl_step_ascii (surrogates : Bool) (read : List (Option CodePoint)) {bytes : Bytes}
    (h : ∀ b ∈ bytes, b < 0x80) :
    bytes.foldl (Progress.step surrogates) ⟨read, none⟩
      = ⟨(bytes.map fun b => some (CodePoint.ofNat b.toNat)).reverse ++ read, none⟩ := by
  induction bytes generalizing read with
  | nil => rfl
  | cons b rest ih =>
      obtain ⟨hb, hrest⟩ := List.forall_mem_cons.mp h
      have hstep : Progress.step surrogates ⟨read, none⟩ b
          = ⟨some (CodePoint.ofNat b.toNat) :: read, none⟩ := by
        simp only [Progress.step, Progress.startWith, lead, if_pos hb]
      rw [List.foldl_cons, hstep, ih _ hrest, List.map_cons, List.reverse_cons, List.append_assoc]
      rfl

/-- The octets of ASCII are code points on their own. -/
theorem decodeLossy_ascii {bytes : Bytes} (h : ∀ b ∈ bytes, b < 0x80) :
    decodeLossy bytes = bytes.map fun b => CodePoint.ofNat b.toNat := by
  rw [decodeLossy, scan, foldl_step_ascii false [] h]
  simp [Function.comp_def]

end Utf8

end Avatar
