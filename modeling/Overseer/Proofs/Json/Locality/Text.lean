-- SUMMARY: String texts end at their closing quote, whatever follows it.
import Overseer.Proofs.Json.Locality

/-!
# Locality of string texts

The text of a string is delimited: what it says is settled with its closing quote, and what is wrong with
it with the octet that is wrong.
-/

namespace Overseer.Json.Text

/-! ## Escapes -/

theorem delimited_hexQuad : Delimited hexQuad := by
  intro s rest n h
  unfold hexQuad at h
  split at h
  · rename_i a b c d rest'
    split at h
    · rename_i ha hb hc hd
      cases h
      exact ⟨[a, b, c, d], rfl, fun more => by simp [hexQuad, ha, hb, hc, hd]⟩
    · cases h
  · cases h

theorem settled_hexQuad (s : Bytes) : Settled hexQuad s := by
  intro fault h finished more
  unfold hexQuad at h
  split at h
  · rename_i a b c d rest
    split at h
    · cases h
    · rename_i bad
      cases h
      refine ⟨.behind .invalidEscape (rest ++ more), ?_⟩
      simp only [List.cons_append, hexQuad]
  · cases h; cases finished

theorem delimited_trailing (high : Nat) : Delimited (trailing high) := by
  intro s rest octets h
  unfold trailing at h
  split at h
  · cases h
  rename_i b s
  split at h
  · cases h
  rename_i slash
  split at h
  · cases h
  rename_i u s
  split at h
  · cases h
  rename_i letter
  split at h
  · cases h
  rename_i low rest' quad
  split at h
  · rename_i isLow
    obtain ⟨rfl, rfl⟩ := Prod.mk.inj (Except.ok.inj h)
    obtain ⟨used, rfl, takes⟩ := delimited_hexQuad quad
    refine ⟨b :: u :: used, rfl, fun more => ?_⟩
    simp only [List.cons_append, trailing, if_neg slash, if_neg letter, takes more, if_pos isLow]
  · cases h

theorem settled_trailing (high : Nat) (s : Bytes) : Settled (trailing high) s := by
  intro fault h finished more
  unfold trailing at h
  split at h
  · cases h; cases finished
  rename_i b s
  split at h
  · rename_i slash
    refine ⟨.behind .unexpectedEndOfHexEscape (s ++ more), ?_⟩
    simp only [List.cons_append, trailing, if_pos slash]
  rename_i slash
  split at h
  · cases h; cases finished
  rename_i u s
  split at h
  · rename_i letter
    refine ⟨.behind .unexpectedEndOfHexEscape (s ++ more), ?_⟩
    simp only [List.cons_append, trailing, if_neg slash, if_pos letter]
  rename_i letter
  split at h
  · rename_i refused
    cases h
    obtain ⟨why, still⟩ := settled_hexQuad s refused finished more
    exact ⟨why, by simp only [List.cons_append, trailing, if_neg slash, if_neg letter, still]⟩
  rename_i low rest quad
  split at h
  · cases h
  · rename_i notLow
    have still := delimited_hexQuad.append quad more
    refine ⟨.behind .loneSurrogate (rest ++ more), ?_⟩
    simp only [List.cons_append, trailing, if_neg slash, if_neg letter, still, if_neg notLow]

theorem delimited_escape : Delimited escape := by
  intro s rest octets h
  unfold escape at h
  split at h
  · cases h
  rename_i b s
  split at h
  · rename_i letter
    split at h
    · cases h
    rename_i code rest' quad
    obtain ⟨used, rfl, takes⟩ := delimited_hexQuad quad
    split at h
    · cases h
    rename_i notLow
    split at h
    · rename_i high
      obtain ⟨second, rfl, follows⟩ := delimited_trailing code h
      refine ⟨b :: (used ++ second), by simp, fun more => ?_⟩
      simp only [List.cons_append, List.append_assoc, escape, if_pos letter, takes, if_neg notLow,
        if_pos high, follows more]
    · rename_i notHigh
      cases h
      refine ⟨b :: used, rfl, fun more => ?_⟩
      simp only [List.cons_append, escape, if_pos letter, takes, if_neg notLow, if_neg notHigh]
  · rename_i letter
    split at h
    · rename_i octet known
      cases h
      exact ⟨[b], rfl, fun more => by simp [escape, letter, known]⟩
    · cases h

theorem settled_escape (s : Bytes) : Settled escape s := by
  intro fault h finished more
  unfold escape at h
  split at h
  · cases h; cases finished
  rename_i b s
  split at h
  · rename_i letter
    split at h
    · rename_i refused
      cases h
      obtain ⟨why, still⟩ := settled_hexQuad s refused finished more
      exact ⟨why, by simp only [List.cons_append, escape, if_pos letter, still]⟩
    rename_i code rest quad
    have still := delimited_hexQuad.append quad more
    split at h
    · rename_i low
      refine ⟨.behind .loneSurrogate (rest ++ more), ?_⟩
      simp only [List.cons_append, escape, if_pos letter, still, if_pos low]
    rename_i notLow
    split at h
    · rename_i high
      obtain ⟨why, refused⟩ := settled_trailing code rest h finished more
      refine ⟨why, ?_⟩
      simp only [List.cons_append, escape, if_pos letter, still, if_neg notLow, if_pos high, refused]
    · cases h
  · rename_i letter
    split at h
    · cases h
    · rename_i unknown
      refine ⟨.behind .invalidEscape (s ++ more), ?_⟩
      simp only [List.cons_append, escape, if_neg letter, unknown]

/-! ## Bodies -/

theorem body_quote (found s : Bytes) : body found (0x22 :: s) = .ok (found.reverse, s) := by
  rw [body]; rfl

theorem body_escape {found s octets rest : Bytes} (h : escape s = .ok (octets, rest)) :
    body found (0x5C :: s) = body (octets.reverse ++ found) rest := by
  rw [body, if_neg (by decide), if_pos rfl]
  split
  · rename_i refused; rw [h] at refused; cases refused
  · rename_i eq; rw [h] at eq; cases eq; rfl

theorem body_escape_error {found s : Bytes} {fault : Fault} (h : escape s = .error fault) :
    body found (0x5C :: s) = .error fault := by
  rw [body, if_neg (by decide), if_pos rfl]
  split
  · rename_i refused; rw [h] at refused; cases refused; rfl
  · rename_i eq; rw [h] at eq; cases eq

theorem body_plain {found s : Bytes} {b : UInt8} (quote : b ≠ 0x22) (slash : b ≠ 0x5C)
    (control : ¬ b < 0x20) : body found (b :: s) = body (b :: found) s := by
  rw [body, if_neg quote, if_neg slash, if_neg control]

theorem delimited_body (found : Bytes) : Delimited (body found) := by
  intro s rest octets h
  fun_induction body found s with
  | case1 | case3 | case5 => cases h
  | case2 found s =>
    cases h
    exact ⟨[0x22], rfl, fun more => body_quote found more⟩
  | case4 found s octets' rest' escaped _ ih =>
    obtain ⟨used, rfl, takes⟩ := delimited_escape escaped
    obtain ⟨tail, rfl, follows⟩ := ih h
    refine ⟨0x5C :: (used ++ tail), by simp, fun more => ?_⟩
    rw [List.cons_append, List.append_assoc, body_escape (takes (tail ++ more)), follows more]
  | case6 found b s quote slash control ih =>
    obtain ⟨used, rfl, takes⟩ := ih h
    refine ⟨b :: used, rfl, fun more => ?_⟩
    rw [List.cons_append, body_plain quote slash control, takes more]

theorem settled_body (found s : Bytes) : Settled (body found) s := by
  intro fault h finished more
  fun_induction body found s with
  | case1 => cases h; cases finished
  | case2 => cases h
  | case3 found s fault' refused _ =>
    cases h
    obtain ⟨why, still⟩ := settled_escape s refused finished more
    exact ⟨why, body_escape_error still⟩
  | case4 found s octets rest escaped _ ih =>
    obtain ⟨why, still⟩ := ih h
    refine ⟨why, ?_⟩
    rw [List.cons_append, body_escape (delimited_escape.append escaped more), still]
  | case5 found b s quote slash control =>
    refine ⟨.behind .controlCharacter (s ++ more), ?_⟩
    rw [List.cons_append, body, if_neg quote, if_neg slash, if_pos control]
  | case6 found b s quote slash control ih =>
    obtain ⟨why, still⟩ := ih h
    exact ⟨why, by rw [List.cons_append, body_plain quote slash control, still]⟩

theorem delimited_read : Delimited read := by
  intro s rest text h
  unfold read at h
  split at h
  · cases h
  rename_i octets rest' found
  split at h
  · rename_i text' decoded
    cases h
    obtain ⟨used, split, takes⟩ := delimited_body [] found
    exact ⟨used, split, fun more => by simp only [read, takes more, decoded]⟩
  · cases h

theorem settled_read (s : Bytes) : Settled read s := by
  intro fault h finished more
  unfold read at h
  split at h
  · rename_i refused
    cases h
    obtain ⟨why, still⟩ := settled_body [] s refused finished more
    exact ⟨why, by simp only [read, still]⟩
  rename_i octets rest found
  split at h
  · cases h
  · rename_i undecoded
    have still := (delimited_body []).append found more
    refine ⟨.peeked .invalidCodePoint (illFormed (s ++ more) (rest ++ more)), ?_⟩
    simp only [read, still, undecoded]

end Overseer.Json.Text
