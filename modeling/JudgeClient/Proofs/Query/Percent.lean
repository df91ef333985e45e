import JudgeClient.Proofs.Numeral
import JudgeClient.Proofs.Text.Utf8
import JudgeClient.Query.Percent

/-!
# Components and back

The characters of a component are few: octets that stand for themselves, the plus sign, and the
percent sign with two digits behind it.  What is written for an octet is read as that octet,
whatever comes behind it, so a component is read as the text that it was written for.

* `writeComponent_of_isPlain` : texts of plain characters are written as they are;
* `isWritten_of_mem_writeComponent` : which characters a component may have;
* `readComponent_writeComponent` : every text survives its component.
-/

namespace JudgeClient.Query

/-! ### The characters of a component -/

/-- The character may stand in a written component. -/
def isWritten (c : Char) : Bool := isPlain c.toNat || c == '+' || c == '%'

theorem all_isWritten_writeOctet : ∀ b < 256, (writeOctet b).all isWritten = true := by
  decide +kernel

theorem isWritten_of_mem_writeComponent {s : List Char} {c : Char} (h : c ∈ writeComponent s) :
    isWritten c = true := by
  obtain ⟨b, hb, hc⟩ := List.mem_flatMap.1 h
  exact List.all_eq_true.1 (all_isWritten_writeOctet b (Utf8.lt_of_mem_encode hb)) c hc

/-- The sign between two pairs stands in no component. -/
theorem amp_not_mem_writeComponent (s : List Char) : '&' ∉ writeComponent s := fun h =>
  absurd (isWritten_of_mem_writeComponent h) (by decide)

/-! ### Texts that are written as they are -/

theorem isPlain_bounds {b : Nat} (h : isPlain b = true) : b < 0x80 ∧ b ≠ 0x20 := by
  simp [isPlain] at h
  omega

theorem writeOctet_of_isPlain {c : Char} (h : isPlain c.toNat = true) :
    (Utf8.encodeChar c).flatMap writeOctet = [c] := by
  obtain ⟨hlt, hne⟩ := isPlain_bounds h
  simp [Utf8.encodeChar, writeOctet, hlt, hne, h]

theorem writeComponent_of_isPlain {s : List Char} (h : ∀ c ∈ s, isPlain c.toNat = true) :
    writeComponent s = s := by
  induction s with
  | nil => rfl
  | cons c s ih =>
    have hs := ih fun d hd => h d (List.mem_cons_of_mem c hd)
    rw [writeComponent, Utf8.encode] at hs ⊢
    rw [List.flatMap_cons, List.flatMap_append, hs, writeOctet_of_isPlain (h c List.mem_cons_self)]
    rfl

theorem isPlain_of_isDigit {c : Char} (h : c.isDigit = true) : isPlain c.toNat = true := by
  simp only [Char.isDigit, Bool.and_eq_true, decide_eq_true_eq] at h
  have hl : 48 ≤ c.toNat := h.1
  have hu : c.toNat ≤ 57 := h.2
  simp [isPlain, hl, hu]

theorem writeComponent_toString_int (i : Int) :
    writeComponent (toString i).toList = (toString i).toList := by
  have hd : ∀ c ∈ Nat.toDigits 10 i.natAbs, isPlain c.toNat = true := fun c hc =>
    isPlain_of_isDigit (Nat.isDigit_of_mem_toDigits (by decide) (by decide) hc)
  refine writeComponent_of_isPlain fun c hc => ?_
  rw [Numeral.toList_toString_int] at hc
  split at hc
  · rcases List.mem_cons.1 hc with rfl | hc
    · decide
    · exact hd c hc
  · exact hd c hc

/-! ### Reading components -/

theorem plainOctets_of_isPlain : ∀ b < 256, isPlain b = true →
    Char.ofNat b ≠ '%' ∧ plainOctets (Char.ofNat b) = [b] := by
  decide +kernel

theorem hexOctet?_hexDigit :
    ∀ b < 256, hexOctet? (hexDigit (b / 16)) (hexDigit (b % 16)) = some b := by
  decide +kernel

theorem componentOctets_cons {c : Char} (h : c ≠ '%') (rest : List Char) :
    componentOctets (c :: rest) = plainOctets c ++ componentOctets rest := by
  rw [componentOctets]
  -- only a percent sign looks at the two characters behind it
  intro a b rest' hc
  exact absurd hc h

theorem componentOctets_percent {a b : Char} {x : Nat} (h : hexOctet? a b = some x)
    (rest : List Char) : componentOctets ('%' :: a :: b :: rest) = x :: componentOctets rest := by
  rw [componentOctets, h]

theorem componentOctets_writeOctet {b : Nat} (h : b < 256) (rest : List Char) :
    componentOctets (writeOctet b ++ rest) = b :: componentOctets rest := by
  unfold writeOctet
  split
  · next hb =>
    subst hb
    exact componentOctets_cons (by decide) rest
  · split
    · next hp =>
      obtain ⟨hne, ho⟩ := plainOctets_of_isPlain b h hp
      rw [List.cons_append, List.nil_append, componentOctets_cons hne, ho]
      rfl
    · exact componentOctets_percent (hexOctet?_hexDigit b h) rest

theorem componentOctets_flatMap_writeOctet {octets : List Nat} (h : ∀ b ∈ octets, b < 256) :
    componentOctets (octets.flatMap writeOctet) = octets := by
  induction octets with
  | nil => rfl
  | cons b octets ih =>
    rw [List.flatMap_cons, componentOctets_writeOctet (h b List.mem_cons_self),
      ih fun x hx => h x (List.mem_cons_of_mem b hx)]

/-- **Every text survives its component.** -/
theorem readComponent_writeComponent (s : String) :
    readComponent (writeComponent s.toList) = .ok s := by
  rw [readComponent, writeComponent,
    componentOctets_flatMap_writeOctet fun _ => Utf8.lt_of_mem_encode, Utf8.decode_encode]
  exact congrArg Except.ok String.ofList_toList

end JudgeClient.Query
