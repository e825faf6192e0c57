import FilterQuery.Query.Token

/-!
# What follows a token is a suffix

Every token leaves a suffix of its text, and a keyword leaves a shorter one. The parser rests on
this: it ends, and it never leaves its text.
-/

namespace FilterQuery

namespace ObjectIdLiteral

theorem suffix_of_after {c : Char} {cs rest : List Char} (h : after c cs = some rest) :
    rest <:+ cs := by
  cases cs with
  | nil => simp [after] at h
  | cons d ds =>
    by_cases hd : d = c
    · simp [after, hd] at h
      exact h ▸ List.suffix_cons d ds
    · simp [after, hd] at h

theorem suffix_of_isPrefixOf? {ds cs rest : List Char} (h : ds.isPrefixOf? cs = some rest) :
    rest <:+ cs := by
  induction ds generalizing cs with
  | nil => exact Option.some.inj h ▸ List.suffix_refl _
  | cons d ds ih =>
    cases cs with
    | nil => cases h
    | cons c cs =>
      change (if d == c then ds.isPrefixOf? cs else none) = some rest at h
      split at h
      · exact (ih h).trans (List.suffix_cons c cs)
      · cases h

theorem suffix_of_read? {cs rest : List Char} {l : ObjectIdLiteral} (h : read? cs = some (l, rest)) :
    rest <:+ cs := by
  simp only [read?, Option.bind_eq_bind, Option.bind_eq_some_iff, Text.run_snd] at h
  obtain ⟨c₁, h₁, c₂, h₂, c₃, h₃, c₄, h₄, c₅, h₅, c₆, h₆, h⟩ := h
  split at h
  · simp only [Option.some.injEq, Prod.mk.injEq] at h
    rw [← h.2]
    have h₂₁ := (suffix_of_isPrefixOf? h₂).trans ((List.dropWhile_suffix _).trans (suffix_of_after h₁))
    have h₃₁ := (suffix_of_after h₃).trans ((List.dropWhile_suffix _).trans h₂₁)
    have h₄₁ := (suffix_of_after h₄).trans ((List.dropWhile_suffix _).trans h₃₁)
    have h₅₁ := (suffix_of_after h₅).trans ((List.drop_suffix _ _).trans h₄₁)
    exact (suffix_of_after h₆).trans ((List.dropWhile_suffix _).trans h₅₁)
  · simp at h

end ObjectIdLiteral

namespace Token

theorem suffix_of_plainName? {cs name rest : List Char} (h : plainName? cs = some (name, rest)) :
    rest <:+ cs := by
  unfold plainName? at h
  split at h
  · simp at h
  · rename_i hr
    simp only [Option.some.injEq, Prod.mk.injEq] at h
    have := congrArg Prod.snd hr
    simp only [Text.run_snd] at this
    exact h.2 ▸ this ▸ List.dropWhile_suffix _

theorem suffix_of_name? {cs name rest : List Char} (h : name? cs = some (name, rest)) :
    rest <:+ cs := by
  unfold name? at h
  split at h
  · simp only [Option.map_eq_some_iff, Prod.mk.injEq, Prod.exists] at h
    obtain ⟨n, r, hr, -, rfl⟩ := h
    exact (suffix_of_plainName? hr).trans ((List.suffix_cons _ _).trans (List.suffix_cons _ _))
  · exact suffix_of_plainName? h

theorem suffix_of_keyword? {cs rest : List Char} {op : Connective} (h : keyword? cs = some (op, rest)) :
    rest <:+ cs ∧ rest.length < cs.length := by
  simp only [keyword?, Option.map_eq_some_iff, Prod.mk.injEq] at h
  obtain ⟨_, hw, -, rfl⟩ := h
  simp only [Text.run_fst, Text.run_snd] at hw ⊢
  have hs := Text.trimStart_suffix cs
  generalize Text.trimStart cs = ds at hw hs ⊢
  have ht := Text.trimStart_suffix (ds.dropWhile Unicode.isWord)
  refine ⟨ht.trans ((List.dropWhile_suffix _).trans hs), ?_⟩
  have hne : ds.takeWhile Unicode.isWord ≠ [] := by
    intro he
    simp [he, Connective.ofKeyword?] at hw
  have hlen : (ds.takeWhile Unicode.isWord).length + (ds.dropWhile Unicode.isWord).length =
      ds.length := by
    rw [← List.length_append, List.takeWhile_append_dropWhile]
  have := List.length_pos_iff.mpr hne
  have := ht.length_le
  have := hs.length_le
  omega

theorem suffix_of_regexBody? {cs body rest : List Char} (h : regexBody? cs = some (body, rest)) :
    rest <:+ cs := by
  fun_induction regexBody? cs generalizing body rest with
  | case1 => simp at h
  | case2 tail =>
    simp only [Option.some.injEq, Prod.mk.injEq] at h
    exact h.2 ▸ List.suffix_cons _ _
  | case3 => simp at h
  | case4 c tail _ ih =>
    simp only [Option.map_eq_some_iff, Prod.mk.injEq, Prod.exists] at h
    obtain ⟨b, r, hr, -, rfl⟩ := h
    exact (ih hr).trans ((List.suffix_cons _ _).trans (List.suffix_cons _ _))
  | case5 => simp at h
  | case6 c tail _ _ _ ih =>
    simp only [Option.map_eq_some_iff, Prod.mk.injEq, Prod.exists] at h
    obtain ⟨b, r, hr, -, rfl⟩ := h
    exact (ih hr).trans (List.suffix_cons _ _)

theorem flag_suffix (cs : List Char) : (flag cs).2 <:+ cs := by
  unfold flag
  split
  · exact List.suffix_cons _ _
  · exact List.suffix_refl _

theorem suffix_of_quotedBody? {q : Char} {cs body rest : List Char}
    (h : quotedBody? q cs = some (body, rest)) : rest <:+ cs := by
  unfold quotedBody? at h
  split at h
  · rename_i hr
    simp only [Option.some.injEq, Prod.mk.injEq] at h
    have := congrArg Prod.snd hr
    simp only [Text.run_snd] at this
    have hs := List.dropWhile_suffix (l := cs) (· != q)
    rw [this] at hs
    exact h.2 ▸ (List.suffix_cons _ _).trans hs
  · simp at h

theorem suffix_of_valueText? {cs rest : List Char} {v : Value} (h : valueText? cs = some (v, rest)) :
    rest <:+ cs := by
  unfold valueText? at h
  split at h
  · simp at h
  · rename_i c tail
    split at h
    · simp only [Option.map_eq_some_iff, Prod.mk.injEq, Prod.exists] at h
      obtain ⟨l, r, hr, -, rfl⟩ := h
      exact ObjectIdLiteral.suffix_of_read? hr
    split at h
    · simp only [Option.some.injEq, Prod.mk.injEq] at h
      exact h.2 ▸ List.dropWhile_suffix _
    split at h
    · simp only [Option.map_eq_some_iff, Prod.mk.injEq, Prod.exists] at h
      obtain ⟨b, r, hr, -, rfl⟩ := h
      exact (suffix_of_quotedBody? hr).trans (List.suffix_cons _ _)
    split at h
    · simp only [Option.map_eq_some_iff, Prod.mk.injEq, Prod.exists] at h
      obtain ⟨b, r, hr, -, rfl⟩ := h
      exact (flag_suffix r).trans ((suffix_of_regexBody? hr).trans (List.suffix_cons _ _))
    · simp at h

theorem suffix_of_comparison? {cs rest : List Char} {c : Comparison}
    (h : comparison? cs = some (c, rest)) : rest <:+ cs := by
  simp only [comparison?] at h
  split at h
  · simp at h
  · rename_i hv
    split at h
    · simp at h
    · simp only [Option.some.injEq, Prod.mk.injEq] at h
      have ht := (List.dropWhile_suffix isComparatorChar).trans (Text.trimStart_suffix cs)
      rw [← h.2]
      exact (Text.trimStart_suffix _).trans
        ((suffix_of_valueText? hv).trans ((Text.trimStart_suffix _).trans ht))

end Token

end FilterQuery
