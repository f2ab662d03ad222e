import Avatar.Failure
import Avatar.Proofs.Colors
import Avatar.Text.Parts

/-! # What a placeholder shows of its actor

    A placeholder is a square of some size in some colour, and both can be
    read off it (`square_inj`).  The colour is made of the three lowest
    octets of the polynomial over the actor's units, and these can be read
    off the colour (`color_eq_color_iff`).  So a placeholder tells those
    twenty-four bits of its actor, and no more (`shows_low_bits`). -/

namespace Avatar.Placeholder

/-! ## Squares -/

theorem ne_quote_of_mem_ofInt {n : Int} : ∀ c ∈ Text.ofInt n, (c != .ofChar '"') = true := by
  intro c hc
  rw [bne_iff_ne]
  rintro rfl
  exact absurd (Text.isDigit_or_of_mem_ofInt hc) (by decide)

/-- The size of a square stands between quotes, and the colour is all that
    is left once the size is known. -/
theorem square_inj {c d : Text} {m n : Int} : square c m = square d n ↔ c = d ∧ m = n := by
  constructor
  · intro h
    have hsize : m = n := by
      -- the first side ends at a quote, and there is none in a number
      have hquote : Text.ofString "\" height=\""
          = .ofChar '"' :: Text.ofString " height=\"" := rfl
      simp only [square, List.append_assoc, List.append_cancel_left_eq, hquote,
        List.cons_append] at h
      exact Text.ofInt_inj.mp
        (Text.append_cons_inj ne_quote_of_mem_ofInt ne_quote_of_mem_ofInt (by decide) h).1
    subst hsize
    have hcolor : c = d := by
      simp only [square] at h
      exact List.append_cancel_left (List.append_cancel_right h)
    exact ⟨hcolor, rfl⟩
  · rintro ⟨rfl, rfl⟩
    rfl

theorem encode_square {color : Text} (h : ∃ octets, color.encode = .ok octets) (size : Int) :
    (square color size).encode = .ok (square color size).utf8 := by
  have hwhole : ∃ octets, (square color size).encode = .ok octets := by
    simp only [square, Text.encode_append_iff, Text.encode_ofString, Text.encode_ofInt, h, and_self]
  exact Text.encode_eq_ok_iff.mpr ⟨Text.encode_iff.mp hwhole, rfl⟩

/-- A colour can be encoded, as it is written in digits. -/
theorem encode_colorOf (n : Nat) : ∃ octets, (colorOf n).encode = .ok octets := by
  refine Text.encode_append_iff.mpr ⟨Text.encode_ofString "#", Text.encode_iff.mpr ?_⟩
  intro c hc
  obtain ⟨value, hvalue, rfl⟩ := Text.exists_of_mem_ofOctets hc
  exact CodePoint.isSurrogate_hexDigit hvalue

/-! ## Actors -/

theorem color_eq_color_iff (a b : Text) :
    color a = color b ↔ polynomial a.units16 ≡ polynomial b.units16 [MOD 2 ^ 24] := by
  rw [color_eq, color_eq, colorOf_inj]

theorem encode_svg (actor : Text) (size : Int) :
    (svg actor size).encode = .ok (svg actor size).utf8 := by
  rw [svg, color_eq]
  exact encode_square (encode_colorOf _) size

/-- What is sent for an actor without an avatar is made of the size and
    twenty-four bits of the polynomial over the actor's units, whatever the
    actor is.  It is the same for two actors and two sizes exactly if the
    sizes and those bits are the same. -/
theorem shows_low_bits :
    ∃ draw : Fin (2 ^ 24) → Int → Bytes,
      (∀ (actor : Text) (size : Int),
        (svg actor size).encode = .ok (draw (.ofNat _ (polynomial actor.units16)) size))
      ∧ ∀ (a b : Text) (m n : Int), (svg a m).encode = (svg b n).encode
        ↔ m = n ∧ polynomial a.units16 ≡ polynomial b.units16 [MOD 2 ^ 24] := by
  refine ⟨fun bits size => (square (colorOf bits) size).utf8, fun actor size => ?_,
    fun a b m n => ?_⟩
  · have hbits : polynomial actor.units16 ≡ polynomial actor.units16 % 2 ^ 24 [MOD 2 ^ 24] :=
      (Nat.mod_modEq _ _).symm
    rw [encode_svg, svg, color_eq, colorOf_inj.mpr hbits]
    rfl
  · rw [encode_svg, encode_svg, Except.ok.injEq, Text.utf8_inj, svg, svg, square_inj,
      color_eq_color_iff, and_comm]

/-- Two actors may share them. -/
example : svg "Aa" 32 = svg "BB" 32 := by decide +kernel

end Avatar.Placeholder
