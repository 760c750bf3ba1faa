import FilterQuery.Json.Reader
import Mathlib.Tactic.SplitIfs

/-!
# Arrays of texts in JSON

An array of texts, whatever characters they hold, is read back from its written form.

* `Json.foldlM_append_of`, `Json.foldlM_cons_of`: runs of a machine that may stop;
* `Scan.foldlM_escape`: the escape of each character stands for that character;
* `Scan.foldlM_quoted`: a text in quotes is one token;
* `Json.tokens?_texts`, **`Json.read?_texts`**.
-/

namespace FilterQuery.Json

open Text

section

variable {σ ι : Type} {f : σ → ι → Option σ} {s t : σ} {i : ι} {k l : List ι}

theorem foldlM_append_of (h : k.foldlM f s = some t) : (k ++ l).foldlM f s = l.foldlM f t := by
  rw [List.foldlM_append, h]
  rfl

theorem foldlM_cons_of (h : f s i = some t) : (i :: k).foldlM f s = k.foldlM f t := by
  rw [List.foldlM_cons, h]
  rfl

end

/-! ## Scanning -/

namespace Scan

variable (ts : List Token)

theorem hexValue?_hexDigit : ∀ n < 16, hexValue? (hexDigit n) = some n := by decide

theorem foldlM_control {c : Char} (done : List Char) (h : c.toNat < 32) :
    ['\\', 'u', '0', '0', hexDigit (c.toNat / 16), hexDigit (c.toNat % 16)].foldlM step
      ⟨.text done none, ts⟩ = some ⟨.text (c :: done) none, ts⟩ := by
  have hhigh : hexValue? (hexDigit (c.toNat / 16)) = some (c.toNat / 16) :=
    hexValue?_hexDigit _ (by omega)
  have hlow : hexValue? (hexDigit (c.toNat % 16)) = some (c.toNat % 16) :=
    hexValue?_hexDigit _ (by omega)
  have hvalue : 16 * (c.toNat / 16) + c.toNat % 16 = c.toNat := Nat.div_add_mod _ _
  have hunit : addUnit done none c.toNat = some (.text (c :: done) none) := by
    rw [addUnit, if_neg (by omega), if_neg (by omega), Char.ofNat_toNat]
  have hopen : ['\\', 'u', '0', '0'].foldlM step ⟨.text done none, ts⟩ =
      some ⟨.hex done none 2 0, ts⟩ := rfl
  have hfirst : step ⟨.hex done none 2 0, ts⟩ (hexDigit (c.toNat / 16)) =
      some ⟨.hex done none 1 (c.toNat / 16), ts⟩ := by
    simp only [step, hhigh]
    simp
  have hsecond : step ⟨.hex done none 1 (c.toNat / 16), ts⟩ (hexDigit (c.toNat % 16)) =
      some ⟨.text (c :: done) none, ts⟩ := by
    simp only [step, hlow, hvalue, hunit]
    rfl
  exact (foldlM_append_of (l := [_, _]) hopen).trans
    ((foldlM_cons_of hfirst).trans (foldlM_cons_of hsecond))

/-- **An escaped character stands for itself.** -/
theorem foldlM_escape (c : Char) (done : List Char) :
    (escape c).foldlM step ⟨.text done none, ts⟩ = some ⟨.text (c :: done) none, ts⟩ := by
  unfold escape
  split_ifs with hquote hslash hline hreturn htab hback hfeed hcontrol
  · rw [hquote]; rfl
  · rw [hslash]; rfl
  · rw [hline]; rfl
  · rw [hreturn]; rfl
  · rw [htab]; rfl
  · rw [hback]; rfl
  · rw [hfeed]; rfl
  · exact foldlM_control ts done hcontrol
  · refine foldlM_cons_of ?_
    simp only [step, if_neg hslash, if_neg hquote, if_neg hcontrol]
    rfl

theorem foldlM_flatMap_escape (cs done : List Char) :
    (cs.flatMap escape).foldlM step ⟨.text done none, ts⟩ =
      some ⟨.text (cs.reverse ++ done) none, ts⟩ := by
  induction cs generalizing done with
  | nil => rfl
  | cons c cs ih =>
    rw [List.flatMap_cons, foldlM_append_of (foldlM_escape ts c done), ih, List.reverse_cons,
      List.append_assoc]
    rfl

/-- **A text in quotes is one token.** -/
theorem foldlM_quoted (s : String) :
    (quoted s).toList.foldlM step ⟨.between, ts⟩ = some ⟨.between, .text s :: ts⟩ := by
  have hopen : step ⟨.between, ts⟩ '"' = some ⟨.text [] none, ts⟩ := rfl
  have hclose : step ⟨.text (s.toList.reverse ++ []) none, ts⟩ '"' =
      some ⟨.between, .text (String.ofList (s.toList.reverse ++ []).reverse) :: ts⟩ := rfl
  rw [quoted, String.toList_ofList, List.cons_append, foldlM_cons_of hopen,
    foldlM_append_of (foldlM_flatMap_escape ts s.toList []), foldlM_cons_of hclose,
    List.append_nil, List.reverse_reverse, String.ofList_toList]
  rfl

theorem foldlM_more (ss : List String) :
    (ss.flatMap fun s => ',' :: (quoted s).toList).foldlM step ⟨.between, ts⟩ =
      some ⟨.between, (ss.flatMap fun s => [.mark ',', .text s]).reverse ++ ts⟩ := by
  induction ss generalizing ts with
  | nil => rfl
  | cons s ss ih =>
    have hcomma : step ⟨.between, ts⟩ ',' = some ⟨.between, .mark ',' :: ts⟩ := rfl
    rw [List.flatMap_cons, List.cons_append, foldlM_cons_of hcomma,
      foldlM_append_of (foldlM_quoted _ s), ih, List.flatMap_cons, List.reverse_append,
      List.append_assoc]
    rfl

end Scan

theorem compactItems_texts (ss : List String) : compactItems (ss.map .str) = ss.map quoted := by
  induction ss with
  | nil => rfl
  | cons s ss ih =>
    rw [List.map_cons, compactItems, ih]
    rfl

theorem toList_joined_quoted (s : String) (ss : List String) :
    (joined "," ((s :: ss).map quoted)).toList =
      (quoted s).toList ++ ss.flatMap fun t => ',' :: (quoted t).toList := by
  induction ss generalizing s with
  | nil => exact (List.append_nil _).symm
  | cons t ss ih =>
    have hcomma : ",".toList = [','] := rfl
    rw [List.map_cons, List.map_cons, joined, ← List.map_cons, String.toList_append, ih,
      String.toList_append, hcomma, List.append_assoc, List.flatMap_cons, List.singleton_append,
      List.cons_append]

theorem toList_compact_texts (s : String) (ss : List String) :
    (compact (.arr ((s :: ss).map .str))).toList = '[' :: ((quoted s).toList ++
      ((ss.flatMap fun t => ',' :: (quoted t).toList) ++ [']'])) := by
  have hopen : "[".toList = ['['] := rfl
  have hclose : "]".toList = [']'] := rfl
  rw [compact, compactItems_texts, String.toList_append, String.toList_append,
    toList_joined_quoted, hopen, hclose, List.append_assoc, List.append_assoc,
    List.singleton_append]

theorem tokens?_texts (s : String) (ss : List String) :
    tokens? (compact (.arr ((s :: ss).map .str))) =
      some (.mark '[' :: .text s ::
        ((ss.flatMap fun t => [.mark ',', .text t]) ++ [.mark ']'])) := by
  have hopen : Scan.step ⟨.between, []⟩ '[' = some ⟨.between, [.mark '[']⟩ := rfl
  have hfold : (compact (.arr ((s :: ss).map .str))).toList.foldlM Scan.step ⟨.between, []⟩ =
      some ⟨.between, .mark ']' :: ((ss.flatMap fun t => [Token.mark ',', .text t]).reverse ++
        [.text s, .mark '['])⟩ := by
    rw [toList_compact_texts, foldlM_cons_of hopen, foldlM_append_of (Scan.foldlM_quoted _ s),
      foldlM_append_of (Scan.foldlM_more _ ss)]
    rfl
  rw [tokens?, hfold]
  simp

/-! ## Building -/

theorem Build.foldlM_more (items : List Json) (stack : List Frame) (ss : List String) :
    (ss.flatMap fun s => [Token.mark ',', .text s]).foldlM step
      ⟨.arr items :: stack, .separator⟩ =
        some ⟨.arr (items ++ ss.map .str) :: stack, .separator⟩ := by
  induction ss generalizing items with
  | nil => rw [List.map_nil, List.append_nil]; rfl
  | cons s ss ih =>
    have htext : [Token.mark ',', .text s].foldlM step ⟨.arr items :: stack, .separator⟩ =
        some ⟨.arr (items ++ [.str s]) :: stack, .separator⟩ := rfl
    rw [List.flatMap_cons, foldlM_append_of htext, ih, List.append_assoc]
    rfl

/-- **An array of texts is read back from its written form.** -/
theorem read?_texts (ss : List String) :
    read? (compact (.arr (ss.map .str))) = some (.arr (ss.map .str)) := by
  cases ss with
  | nil => rfl
  | cons s ss =>
    have hopen : [Token.mark '[', .text s].foldlM Build.step ⟨[], .value⟩ =
        some ⟨[.arr [.str s]], .separator⟩ := rfl
    have hclose : Build.step ⟨[.arr ([.str s] ++ ss.map .str)], .separator⟩ (.mark ']') =
        some ⟨[], .nothing (.arr ((s :: ss).map .str))⟩ := rfl
    have hbuild := (foldlM_append_of (l := _ ++ [Token.mark ']']) hopen).trans
      ((foldlM_append_of (Build.foldlM_more [.str s] [] ss)).trans (foldlM_cons_of hclose))
    rw [read?, tokens?_texts, Option.bind_eq_bind, Option.bind_some]
    exact congrArg (Option.bind · _) hbuild

end FilterQuery.Json
