/- Values between double quotes. A backslash before a quote or another backslash gives that
   character; before any other character it stands for itself. -/
namespace BondQuery.Syntax

/-- Splits after the quote that ends a value: the characters before it and those behind it. A
    quote behind an odd run of backslashes does not end the value, and a line break may not
    occur in it. -/
def takeQuoted? : List Char → Option (List Char × List Char)
  | [] => none
  | '"' :: rest => some ([], rest)
  | '\\' :: c :: rest =>
    if c == '\n' then none
    else (takeQuoted? rest).map fun (inner, after) => ('\\' :: c :: inner, after)
  | c :: rest =>
    if c == '\n' then none
    else (takeQuoted? rest).map fun (inner, after) => (c :: inner, after)

def unescape : List Char → List Char
  | [] => []
  | '\\' :: '"' :: rest => '"' :: unescape rest
  | '\\' :: '\\' :: rest => '\\' :: unescape rest
  | c :: rest => c :: unescape rest

theorem eq_of_takeQuoted? {cs inner rest : List Char} (h : takeQuoted? cs = some (inner, rest)) :
    cs = inner ++ '"' :: rest := by
  fun_induction takeQuoted? cs generalizing inner with
  | case1 => simp at h
  | case2 => simp_all
  | case3 => simp at h
  | case4 c cs _ ih =>
    obtain ⟨⟨i, a⟩, found, same⟩ := Option.map_eq_some_iff.1 h
    simp only [Prod.mk.injEq] at same
    simp [← same.1, ih (same.2 ▸ found)]
  | case5 => simp at h
  | case6 c cs _ _ _ ih =>
    obtain ⟨⟨i, a⟩, found, same⟩ := Option.map_eq_some_iff.1 h
    simp only [Prod.mk.injEq] at same
    simp [← same.1, ih (same.2 ▸ found)]

end BondQuery.Syntax
