/-!
# Blank characters

The characters with the Unicode property White_Space, and trimming. A text is blank when it has
no other character. Trimming twice is trimming once (`trim_trim`), a trimmed text has a blank at
neither end (`head?_trimChars`, `getLast?_trimChars`), and a blank text is one of which trimming
leaves nothing (`trim_eq_empty_iff`).
-/

namespace BoxOffice.Text

/-- A character of the Unicode class White_Space. -/
def isBlankChar (c : Char) : Bool :=
  let n := c.toNat
  (0x09 ≤ n && n ≤ 0x0D) || n == 0x20 || n == 0x85 || n == 0xA0 || n == 0x1680 ||
    (0x2000 ≤ n && n ≤ 0x200A) || n == 0x2028 || n == 0x2029 || n == 0x202F || n == 0x205F ||
    n == 0x3000

theorem dropBlanks_eq_self {cs : List Char} (h : ∀ c ∈ cs.head?, isBlankChar c = false) :
    cs.dropWhile isBlankChar = cs := by
  cases cs with
  | nil => rfl
  | cons c rest => simp [h c rfl]

theorem head?_dropBlanks (cs : List Char) :
    ∀ c ∈ (cs.dropWhile isBlankChar).head?, isBlankChar c = false := by
  intro c hc
  have h := List.head?_dropWhile_not isBlankChar cs
  rw [Option.mem_def.1 hc] at h
  exact h

theorem dropBlanks_eq_nil_iff {cs : List Char} :
    cs.dropWhile isBlankChar = [] ↔ ∀ c ∈ cs, isBlankChar c := by
  induction cs with
  | nil => simp
  | cons c rest ih => by_cases h : isBlankChar c <;> simp [h, ih]

/-- The characters without the blanks at both ends. -/
def trimChars (cs : List Char) : List Char :=
  ((cs.dropWhile isBlankChar).reverse.dropWhile isBlankChar).reverse

theorem head?_trimChars (cs : List Char) : ∀ c ∈ (trimChars cs).head?, isBlankChar c = false := by
  intro c hc
  have kept : trimChars cs <+: cs.dropWhile isBlankChar :=
    List.reverse_suffix.1 (by simpa [trimChars] using List.dropWhile_suffix isBlankChar)
  apply head?_dropBlanks cs
  obtain ⟨rest, hrest⟩ := kept
  rw [← hrest, List.head?_append, Option.mem_def.1 hc]
  rfl

theorem getLast?_trimChars (cs : List Char) :
    ∀ c ∈ (trimChars cs).getLast?, isBlankChar c = false := by
  intro c hc
  rw [trimChars, List.getLast?_reverse] at hc
  exact head?_dropBlanks _ c hc

theorem trimChars_eq_self {cs : List Char} (first : ∀ c ∈ cs.head?, isBlankChar c = false)
    (last : ∀ c ∈ cs.getLast?, isBlankChar c = false) : trimChars cs = cs := by
  rw [← List.head?_reverse] at last
  rw [trimChars, dropBlanks_eq_self first, dropBlanks_eq_self last, List.reverse_reverse]

theorem trimChars_trimChars (cs : List Char) : trimChars (trimChars cs) = trimChars cs :=
  trimChars_eq_self (head?_trimChars cs) (getLast?_trimChars cs)

/-- The text without the blanks at both ends. -/
def trim (s : String) : String :=
  String.ofList (trimChars s.toList)

theorem trim_trim (s : String) : trim (trim s) = trim s := by
  simp [trim, trimChars_trimChars]

/-- A text with nothing but blanks in it. -/
def isBlank (s : String) : Bool :=
  s.toList.all isBlankChar

theorem trim_eq_empty_iff {s : String} : trim s = "" ↔ isBlank s := by
  have h : trimChars s.toList = [] ↔ s.toList.dropWhile isBlankChar = [] := by
    constructor
    · intro h
      rw [trimChars, List.reverse_eq_nil_iff, dropBlanks_eq_nil_iff] at h
      cases e : s.toList.dropWhile isBlankChar with
      | nil => rfl
      | cons c rest =>
        have first := head?_dropBlanks s.toList c (by simp [e])
        rw [h c (by simp [e])] at first
        exact absurd first (by decide)
    · intro h
      simp [trimChars, h]
  rw [trim, ← String.ofList_nil, String.ofList_inj, h, dropBlanks_eq_nil_iff]
  simp [isBlank]

/-- The characters with every run of blanks made one space and none left at the ends. -/
def collapseChars : List Char → List Char
  | [] => []
  | c :: rest =>
    if isBlankChar c then
      match collapseChars rest with
      | [] => []
      | ' ' :: more => ' ' :: more
      | more => ' ' :: more
    else c :: collapseChars rest

/-- The text with every run of blanks made one space and none left at the ends. -/
def collapse (s : String) : String :=
  String.ofList (collapseChars (s.toList.dropWhile isBlankChar))

end BoxOffice.Text
