import Avatar.Text.CaseTable

/-! # Lower case

    Every letter has a lower-case form of one code point, but for U+0130,
    which becomes an `i` and a dot above.  A capital sigma is lowered to
    the final form at the end of a word: some letter stands before it and
    none after it, where marks and the like are looked past. -/

namespace Avatar

namespace CodePoint

/-- A letter with case. -/
def isCased (c : CodePoint) : Bool := isInRanges casedRanges c.val

/-- A mark or sign that is looked past when a word's end is sought. -/
def isSkipped (c : CodePoint) : Bool := isInRanges skippedRanges c.val

/-- The lower-case form of a code point by itself. -/
def lowercase (c : CodePoint) : Text :=
  if c.isBetween '\x00' '\x7f' then [c.asciiLowercase]
  else if c.val = 0x130 then [ofNat 0x69, ofNat 0x307]
  else [ofNat ((caseRuns.findSome? (·.lower? c.val)).getD c.val)]

/-- The capital letter sigma. -/
def capitalSigma : CodePoint := ⟨0x3A3, by decide⟩

/-- The form of sigma at the end of a word. -/
def finalSigma : CodePoint := ⟨0x3C2, by decide⟩

end CodePoint

namespace Text

/-- Whether the first code point that is not looked past is a letter. -/
def startsInWord : Text → Bool
  | [] => false
  | c :: rest => if c.isSkipped then startsInWord rest else c.isCased

/-- Lowers what follows the text `before`, which is held latest code
    point first; the lowered text is held so too. -/
def lowercaseFrom (before lowered : Text) : Text → Text
  | [] => lowered.reverse
  | c :: rest =>
    let form :=
      if c = .capitalSigma && startsInWord before && !startsInWord rest then [.finalSigma]
      else c.lowercase
    lowercaseFrom (c :: before) (form.reverse ++ lowered) rest

/-- The text in lower case. -/
def lowercase (s : Text) : Text := lowercaseFrom [] [] s

end Text

end Avatar
