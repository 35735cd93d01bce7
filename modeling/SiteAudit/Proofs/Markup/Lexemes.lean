import SiteAudit.Markup.Lexer

/-!
# Lexemes and their lines

Cutting a text into lexemes loses nothing but what is left of it in raw text at
the end.  So the line of a token is right: it is one more than the number of
line feeds before its lexeme.  Lines never go back, and none lies behind the end
of the text.
-/

namespace SiteAudit
namespace Markup

def sources (ls : List Lexeme) : List Char :=
  ls.flatMap (·.source)

theorem sources_append (ls ls' : List Lexeme) :
    sources (ls ++ ls') = sources ls ++ sources ls' :=
  List.flatMap_append

theorem sources_reverse_cons (r : Reading) (done : List Lexeme)
    (s : List Char) :
    sources (r.lexeme s :: done).reverse ++ s.drop r.used =
      sources done.reverse ++ s := by
  have hsource : sources [r.lexeme s] = s.take r.used := List.append_nil _
  rw [List.reverse_cons, sources_append, hsource, List.append_assoc,
    List.take_append_drop]

theorem sources_scan {final : Bool} {done : List Lexeme} {mode : Mode}
    {s : List Char} {p : Progress} (h : scan final done mode s = .ok p) :
    sources p.done.reverse ++ p.rest = sources done.reverse ++ s := by
  fun_induction scan final done mode s with
  | case1 done mode =>
      cases h
      rfl
  | case2 done mode c rest e _ => cases h
  | case3 done mode c rest _ =>
      cases h
      rfl
  | case4 done mode c rest r _ =>
      cases h
      exact sources_reverse_cons r done (c :: rest)
  | case5 done mode c rest r _ ih =>
      rw [ih h]
      exact sources_reverse_cons r done (c :: rest)

theorem sources_lexemes {s : List Char} {ls : List Lexeme}
    (h : lexemes s = .ok ls) : sources ls <+: s := by
  unfold lexemes at h
  split at h
  · cases h
  · rename_i first hfirst
    split at h
    · cases h
    · rename_i second hsecond
      cases h
      have hwhole : sources second.done.reverse ++ second.rest = s := by
        rw [sources_scan hsecond, sources_scan hfirst]
        rfl
      rw [sources_append]
      unfold leftover
      split
      · exact ⟨second.rest, by rw [← hwhole]; simp [sources]⟩
      · split
        · exact ⟨second.rest, by rw [← hwhole]; simp [sources]⟩
        · exact ⟨[], by rw [← hwhole]; simp [sources]⟩

/-!
## Lines
-/

theorem map_token_placeTokens (line : Nat) (ls : List Lexeme) :
    (placeTokens line ls).map (·.token) = ls.filterMap (·.token) := by
  induction ls generalizing line with
  | nil => rfl
  | cons l ls ih =>
      rw [placeTokens]
      cases htoken : l.token with
      | none => rw [List.filterMap_cons_none htoken, ih]
      | some t => rw [List.filterMap_cons_some htoken, List.map_cons, ih]

/-- No token of a row of lexemes stands before the line of the row, and none
behind its last line. -/
theorem line_of_mem_placeTokens {line : Nat} {ls : List Lexeme}
    {t : PlacedToken} (h : t ∈ placeTokens line ls) :
    line ≤ t.line ∧ t.line ≤ line + Text.countLineFeeds (sources ls) := by
  induction ls generalizing line with
  | nil => cases h
  | cons l ls ih =>
      have hcount : Text.countLineFeeds (sources (l :: ls)) =
          Text.countLineFeeds l.source + Text.countLineFeeds (sources ls) := by
        rw [sources, List.flatMap_cons]
        exact List.count_append
      have hrest : t ∈ placeTokens (line + Text.countLineFeeds l.source) ls →
          line ≤ t.line ∧
            t.line ≤ line + Text.countLineFeeds (sources (l :: ls)) := by
        intro hmem
        have hbounds := ih hmem
        omega
      rw [placeTokens] at h
      split at h
      · exact hrest h
      · rcases List.mem_cons.1 h with rfl | hmem
        · exact ⟨Nat.le_refl line, Nat.le_add_right line _⟩
        · exact hrest hmem

theorem pairwise_placeTokens (line : Nat) (ls : List Lexeme) :
    (placeTokens line ls).Pairwise fun t t' => t.line ≤ t'.line := by
  induction ls generalizing line with
  | nil => exact List.Pairwise.nil
  | cons l ls ih =>
      rw [placeTokens]
      split
      · exact ih _
      · apply List.Pairwise.cons _ (ih _)
        intro t ht
        exact Nat.le_trans (Nat.le_add_right line _)
          (line_of_mem_placeTokens ht).1

theorem countLineFeeds_le_of_prefix {s s' : List Char} (h : s <+: s') :
    Text.countLineFeeds s ≤ Text.countLineFeeds s' :=
  h.sublist.count_le '\n'

/-- The tokens of a text stand on the lines of the text, one after the other. -/
theorem tokens_lines {s : List Char} {ts : List PlacedToken}
    (h : tokens s = .ok ts) :
    (∀ t ∈ ts, 1 ≤ t.line ∧ t.line ≤ 1 + Text.countLineFeeds s) ∧
      ts.Pairwise fun t t' => t.line ≤ t'.line := by
  unfold tokens at h
  cases hls : lexemes s with
  | error e =>
      rw [hls] at h
      cases h
  | ok ls =>
      rw [hls] at h
      cases h
      refine ⟨?_, pairwise_placeTokens 1 ls⟩
      intro t ht
      have hbounds := line_of_mem_placeTokens ht
      have hle := countLineFeeds_le_of_prefix (sources_lexemes hls)
      omega

end Markup
end SiteAudit
