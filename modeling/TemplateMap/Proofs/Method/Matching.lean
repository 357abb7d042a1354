import TemplateMap.Method
import TemplateMap.Proofs.Text.Braces
import TemplateMap.Proofs.Text.Occurrence

/-! The end of a method, by the braces that match and by the search for it.  The body ends where the
brace stands that matches the first one opened behind the method's name.  The search counts all
braces of whole lines from the declaration on and looks at the count at the ends of the lines below
it, so it ends elsewhere where the declaration has other braces, where the body ends on its first
line, and where the line that ends it opens another one. -/

namespace TemplateMap

namespace Method

variable {lines : List Text} {anchor line : Text}

/-! ### The search -/

/-- What the search knows after a text: the braces left open, and whether one was opened. -/
def stateAfter (t : Text) : Int × Bool := (t.braceBalance, t.contains '\x7b')

theorem depthAfter_stateAfter (before line : Text) :
    depthAfter (stateAfter before) line = stateAfter (before ++ line) := by
  induction line generalizing before with
  | nil => rw [List.append_nil]; rfl
  | cons c line ih =>
    have hstep : depthAfter (stateAfter before) (c :: line) =
        depthAfter (stateAfter (before ++ [c])) line := by
      rw [depthAfter, depthAfter, List.foldl_cons]
      congr 1
      simp only [stateAfter, Text.braceBalance_append]
      split
      next h => simp [h]
      next hopen =>
        split
        next h => simp [h, Int.sub_eq_add_neg]
        next hclose => simp [Text.braceBalance_other hopen hclose, Ne.symm hopen]
    rw [hstep, ih, List.append_assoc, List.singleton_append]

theorem closing?_stateAfter (before : Text) (lines : List Text) :
    closing? (stateAfter before) lines =
      (List.range lines.length).find? fun k =>
        decide (Text.Settles (before ++ (lines.take (k + 1)).flatten)) := by
  induction lines generalizing before with
  | nil => rfl
  | cons line rest ih =>
    rw [closing?, depthAfter_stateAfter, List.length_cons, List.range_succ_eq_map, List.find?_cons]
    have hfirst :
        ((stateAfter (before ++ line)).2 && decide ((stateAfter (before ++ line)).1 ≤ 0)) =
        decide (Text.Settles (before ++ ((line :: rest).take 1).flatten)) := by
      simp [stateAfter, Text.Settles]
    simp only [hfirst, List.find?_map, ih]
    cases decide (Text.Settles (before ++ ((line :: rest).take (0 + 1)).flatten)) with
    | true => rfl
    | false =>
      simp only [Bool.false_eq_true, if_false]
      congr 2
      funext k
      rw [Function.comp_apply, List.append_assoc]
      rfl

/-! ### The declaration -/

/-- The first line of a source that names a method and opens a parenthesis, cut behind the name. -/
structure Declaration (lines : List Text) (anchor : Text) where
  above : List Text
  lead : Text
  rest : Text
  below : List Text
  lines_eq : above ++ (lead ++ rest) :: below = lines
  above_other : ∀ line ∈ above, ¬ (anchor <:+: line ∧ '(' ∈ line)
  lead_end : EndsAtFirst anchor lead
  paren : '(' ∈ lead ++ rest

theorem declares_iff : declares anchor line = true ↔ anchor <:+: line ∧ '(' ∈ line := by
  rw [declares, Bool.and_eq_true, occursIn_iff, List.contains_iff_mem]

namespace Declaration

variable (d d' : Declaration lines anchor) {n k : Nat}

theorem exists_of_mem (h : ∃ line ∈ lines, anchor <:+: line ∧ '(' ∈ line) :
    Nonempty (Declaration lines anchor) := by
  obtain ⟨line, hfind⟩ := Option.isSome_iff_exists.mp
    (List.find?_isSome (p := declares anchor) |>.mpr (by simpa only [declares_iff] using h))
  obtain ⟨hdeclares, above, below, hlines, hother⟩ := List.find?_eq_some_iff_append.mp hfind
  have hline := declares_iff.mp hdeclares
  obtain ⟨n, hn⟩ := Option.isSome_iff_exists.mp (occursIn_iff.mpr hline.1)
  have hlength := length_of_firstOccurrence? hn
  refine ⟨⟨above, line.take (n + anchor.length), line.drop (n + anchor.length), below, ?_,
    fun line hmem hdeclares => ?_, ⟨n, ?_, ?_⟩, ?_⟩⟩
  · rw [List.take_append_drop, hlines]
  · simpa [declares_iff.mpr hdeclares] using hother line hmem
  · rw [firstOccurrence?_take, hn]
    simp
  · rw [List.length_take, Nat.min_eq_left hlength]
  · rw [List.take_append_drop]
    exact hline.2

theorem declares_line : declares anchor (d.lead ++ d.rest) = true := by
  obtain ⟨n, hn, -⟩ := d.lead_end
  have hanchor : anchor <:+: d.lead := occursIn_iff.mp (by rw [occursIn, hn]; rfl)
  exact declares_iff.mpr ⟨hanchor.trans (List.prefix_append _ _).isInfix, d.paren⟩

theorem findIdx?_eq : lines.findIdx? (declares anchor) = some d.above.length := by
  have habove : d.above.findIdx? (declares anchor) = none :=
    List.findIdx?_eq_none_iff.mpr fun line hmem =>
      Bool.eq_false_iff.mpr (mt declares_iff.mp (d.above_other line hmem))
  conv_lhs => rw [← d.lines_eq, List.findIdx?_append, habove]
  simp [List.findIdx?_cons, d.declares_line]

theorem drop_eq : lines.drop d.above.length = (d.lead ++ d.rest) :: d.below := by
  have hdrop := congrArg (List.drop d.above.length) d.lines_eq
  rw [List.drop_left] at hdrop
  exact hdrop.symm

theorem length_eq : lines.length = d.above.length + d.below.length + 1 := by
  have hlength := congrArg List.length d.lines_eq
  rw [List.length_append, List.length_cons] at hlength
  omega

/-- There is one first declaration. -/
instance : Subsingleton (Declaration lines anchor) where
  allEq d d' := by
    have hlength : d.above.length = d'.above.length :=
      Option.some.inj (d.findIdx?_eq.symm.trans d'.findIdx?_eq)
    obtain ⟨habove, hcons⟩ := List.append_inj (d.lines_eq.trans d'.lines_eq.symm) hlength
    obtain ⟨hline, hbelow⟩ := List.cons.inj hcons
    obtain ⟨n, hn, hend⟩ := d.lead_end
    obtain ⟨n', hn', hend'⟩ := d'.lead_end
    have hfirst := firstOccurrence?_append hn d.rest
    rw [hline, firstOccurrence?_append hn' d'.rest, Option.some.injEq] at hfirst
    obtain ⟨hlead, hrest⟩ := List.append_inj hline (by omega)
    cases d
    cases d'
    simp only at habove hlead hrest hbelow
    subst habove hlead hrest hbelow
    rfl

/-- The span from the declaration to the line that is `n` lines below it. -/
def spanTo (n : Nat) : MethodSpan := ⟨d.above.length, d.above.length + n⟩

/-- The declaration and the `k` lines below it. -/
def upTo (k : Nat) : Text := (((d.lead ++ d.rest) :: d.below).take (k + 1)).flatten

/-- The lines from the declaration on, without what stands up to the end of the name in it. -/
def body : List Text := d.rest :: d.below

theorem upTo_eq (k : Nat) : d.upTo k = d.lead ++ (d.body.take (k + 1)).flatten := by
  simp [upTo, body]

/-- The line that is `n` lines below the declaration is the first one at whose end all braces are
closed that the lines from the declaration on have opened, or there is none and it is the last
one. -/
structure StopsAt (n : Nat) : Prop where
  le : n ≤ d.below.length
  open_before : ∀ k, 0 < k → k < n → ¬ (d.upTo k).Settles
  closed : n = d.below.length ∨ 0 < n ∧ (d.upTo n).Settles

variable {d} in
theorem StopsAt.unique (h : d.StopsAt n) (h' : d.StopsAt k) : n = k := by
  rcases Nat.lt_trichotomy n k with hlt | heq | hlt
  · rcases h.closed with rfl | ⟨hpos, hsettles⟩
    · exact absurd h'.le (Nat.not_le.mpr hlt)
    · exact absurd hsettles (h'.open_before n hpos hlt)
  · exact heq
  · rcases h'.closed with rfl | ⟨hpos, hsettles⟩
    · exact absurd h.le (Nat.not_le.mpr hlt)
    · exact absurd hsettles (h.open_before k hpos hlt)

/-- The search goes from the declaration to the line that all braces of whole lines tell. -/
theorem exists_stopsAt : ∃ last, find? lines anchor = some (d.spanTo last) ∧ d.StopsAt last := by
  have hclosing : closing? (depthAfter (0, false) (d.lead ++ d.rest)) d.below =
      (List.range d.below.length).find? fun k => decide (d.upTo (k + 1)).Settles := by
    have hstart : ((0, false) : Int × Bool) = stateAfter [] := rfl
    rw [hstart, depthAfter_stateAfter, List.nil_append, closing?_stateAfter]
    rfl
  unfold find?
  rw [d.findIdx?_eq]
  simp only
  rw [d.drop_eq]
  simp only
  rw [hclosing]
  cases hfound : (List.range d.below.length).find? fun k => decide (d.upTo (k + 1)).Settles with
  | some k =>
    obtain ⟨hsettles, hk, hbefore⟩ := List.find?_range_eq_some.mp hfound
    rw [List.mem_range] at hk
    have hlast : d.above.length + 1 + k = d.above.length + (k + 1) := by omega
    refine ⟨k + 1, by simp only [spanTo, hlast], hk, fun j hpos hlt => ?_,
      .inr ⟨Nat.succ_pos k, of_decide_eq_true hsettles⟩⟩
    obtain ⟨j, rfl⟩ := Nat.exists_eq_add_of_le' hpos
    simpa using hbefore j (by omega)
  | none =>
    refine ⟨d.below.length, by simp [spanTo, d.length_eq], le_rfl, fun j hpos hlt => ?_, .inl rfl⟩
    obtain ⟨j, rfl⟩ := Nat.exists_eq_add_of_le' hpos
    simpa using List.find?_eq_none.mp hfound j (List.mem_range.mpr (by omega))

/-! ### The matching brace -/

/-- The method ends `n` lines below the declaration: where the brace stands that matches the first
one opened behind the name, or at the last line if no brace is or none matches it. -/
def IsEnd (n : Nat) : Prop :=
  Text.ClosesAt d.body n ∨ n = d.below.length ∧ ∀ k, ¬ Text.ClosesAt d.body k

variable {d} in
theorem IsEnd.unique (h : d.IsEnd n) (h' : d.IsEnd k) : n = k := by
  rcases h with h | ⟨rfl, hnone⟩
  · rcases h' with h' | ⟨-, hnone'⟩
    · exact h.unique h'
    · exact absurd h (hnone' n)
  · rcases h' with h' | ⟨rfl, -⟩
    · exact absurd h' (hnone k)
    · rfl

theorem exists_isEnd : ∃ last ≤ d.below.length, ∀ n, d.IsEnd n ↔ n = last := by
  by_cases h : ∃ k, Text.ClosesAt d.body k
  · obtain ⟨k, hk⟩ := h
    have hend : d.IsEnd k := .inl hk
    exact ⟨k, Nat.le_of_lt_succ hk.lt_length, fun n => ⟨fun hn => hn.unique hend, (· ▸ hend)⟩⟩
  · have hend : d.IsEnd d.below.length := .inr ⟨rfl, fun k hk => h ⟨k, hk⟩⟩
    exact ⟨_, le_rfl, fun n => ⟨fun hn => hn.unique hend, (· ▸ hend)⟩⟩

/-- The first brace from the declaration on is opened, behind the name. -/
structure IsPlain : Prop where
  lead_open : '\x7b' ∉ d.lead
  lead_close : '\x7d' ∉ d.lead
  body_opens : Text.OpensFirst d.body.flatten

variable {d} in
/-- Where the declaration is plain, lines that leave no brace open reach the end of the method. -/
theorem IsPlain.exists_closesAt (h : d.IsPlain) (hsettles : (d.upTo k).Settles) :
    ∃ j ≤ k, Text.ClosesAt d.body j := by
  rw [upTo_eq] at hsettles
  have hbody : Text.Settles (d.body.take (k + 1)).flatten := by
    refine ⟨(List.mem_append.mp hsettles.1).resolve_left h.lead_open, ?_⟩
    have hle := hsettles.2
    rwa [Text.braceBalance_append, Text.braceBalance_of_notMem h.lead_open h.lead_close,
      Int.zero_add] at hle
  obtain ⟨j, hj, hcloses⟩ := Text.exists_closesAt hbody h.body_opens
  exact ⟨j, Nat.le_of_lt_succ hj, hcloses⟩

variable {d} in
theorem IsPlain.stopsAt_iff (h : d.IsPlain) (hend : d.IsEnd n) (hle : n ≤ d.below.length) :
    d.StopsAt n ↔ n = d.below.length ∨ 0 < n ∧ (d.upTo n).Settles := by
  refine ⟨fun hstops => hstops.closed, fun hclosed => ⟨hle, fun k hpos hlt hsettles => ?_, hclosed⟩⟩
  obtain ⟨j, hj, hcloses⟩ := h.exists_closesAt hsettles
  rcases hend with hn | ⟨-, hnone⟩
  · have heq := hcloses.unique hn
    omega
  · exact hnone j hcloses

end Declaration

/-- In a source with a declaration the method that is found begins at the first one, and goes to the
first line below it at whose end the braces of whole lines from the declaration on are closed, or to
the last line.  That is the end that the matching brace tells exactly if the search stops there;
where no other brace stands before the one that opens the body, exactly if the body ends at the last
line, or below the declaration on a line that leaves no brace open. -/
theorem find?_isEnd_iff (lines : List Text) (anchor : Text)
    (h : ∃ line ∈ lines, anchor <:+: line ∧ '(' ∈ line) :
    ∃ d : Declaration lines anchor, ∃ found last : Nat,
      find? lines anchor = some (d.spanTo found) ∧ d.StopsAt found ∧
      (∀ n, d.IsEnd n ↔ n = last) ∧ (found = last ↔ d.StopsAt last) ∧
      (d.IsPlain →
        (found = last ↔ last = d.below.length ∨ 0 < last ∧ (d.upTo last).Settles)) := by
  obtain ⟨d⟩ := Declaration.exists_of_mem h
  obtain ⟨found, hfound, hstops⟩ := d.exists_stopsAt
  obtain ⟨last, hle, hend⟩ := d.exists_isEnd
  have hiff : found = last ↔ d.StopsAt last :=
    ⟨fun heq => heq ▸ hstops, fun hlast => hstops.unique hlast⟩
  exact ⟨d, found, last, hfound, hstops, hend, hiff, fun hplain =>
    hiff.trans (hplain.stopsAt_iff ((hend last).mpr rfl) hle)⟩

/-- A method whose declaration has no brace before the one that opens its body, and whose body ends
on a line of its own. -/
def tidyMethod : List Text :=
  ["class A \x7b".toList, "void _jspService() \x7b".toList, "x();".toList, "\x7d".toList,
    "\x7d".toList]

def tidyDeclaration : Declaration tidyMethod "_jspService".toList where
  above := ["class A \x7b".toList]
  lead := "void _jspService".toList
  rest := "() \x7b".toList
  below := ["x();".toList, "\x7d".toList, "\x7d".toList]
  lines_eq := by decide
  above_other := by decide
  lead_end := ⟨5, by decide, by decide⟩
  paren := by decide

theorem tidyMethod_isEnd :
    (∃ line ∈ tidyMethod, "_jspService".toList <:+: line ∧ '(' ∈ line) ∧
    tidyDeclaration.IsPlain ∧ tidyDeclaration.IsEnd 2 ∧
    find? tidyMethod "_jspService".toList = some (tidyDeclaration.spanTo 2) := by
  have hdeclared : ∃ line ∈ tidyMethod, "_jspService".toList <:+: line ∧ '(' ∈ line := by decide
  have hplain : tidyDeclaration.IsPlain := ⟨by decide, by decide, by decide⟩
  have hend : tidyDeclaration.IsEnd 2 :=
    .inl ⟨[], [], rfl, "() ".toList, "x();".toList, by decide, by decide, by decide⟩
  obtain ⟨d, found, last, hfind, -, hlast, -, hiff⟩ :=
    find?_isEnd_iff tidyMethod "_jspService".toList hdeclared
  obtain rfl : d = tidyDeclaration := Subsingleton.elim _ _
  obtain rfl : 2 = last := (hlast 2).mp hend
  obtain rfl : found = 2 := (hiff hplain).mpr (.inr (by decide))
  exact ⟨hdeclared, hplain, hend, hfind⟩

/-- A body that ends on the line of the declaration. -/
def oneLineMethod : List Text := ["void _jspService() \x7b \x7d".toList, "x();".toList]

def oneLineDeclaration : Declaration oneLineMethod "_jspService".toList where
  above := []
  lead := "void _jspService".toList
  rest := "() \x7b \x7d".toList
  below := ["x();".toList]
  lines_eq := by decide
  above_other := nofun
  lead_end := ⟨5, by decide, by decide⟩
  paren := by decide

/-- A body that ends on the line that opens the next one. -/
def joinedMethods : List Text :=
  ["void _jspService() \x7b".toList, "\x7d void g() \x7b".toList, "\x7d".toList]

def joinedDeclaration : Declaration joinedMethods "_jspService".toList where
  above := []
  lead := "void _jspService".toList
  rest := "() \x7b".toList
  below := ["\x7d void g() \x7b".toList, "\x7d".toList]
  lines_eq := by decide
  above_other := nofun
  lead_end := ⟨5, by decide, by decide⟩
  paren := by decide

/-- A declaration behind the end of another body. -/
def followingMethod : List Text :=
  ["\x7d void _jspService() \x7b".toList, "x();".toList, "\x7d".toList]

def followingDeclaration : Declaration followingMethod "_jspService".toList where
  above := []
  lead := "\x7d void _jspService".toList
  rest := "() \x7b".toList
  below := ["x();".toList, "\x7d".toList]
  lines_eq := by decide
  above_other := nofun
  lead_end := ⟨7, by decide, by decide⟩
  paren := by decide

/-- The method that is found does not always go to its matching brace: not where the body ends on
the line of the declaration, not where the line that ends it opens another one, and not where a
brace stands before the name, even if the body ends on a line of its own. -/
theorem not_forall_find?_isEnd :
    (¬ ∀ (lines : List Text) (anchor : Text) (d : Declaration lines anchor), d.IsPlain →
      ∃ last, d.IsEnd last ∧ find? lines anchor = some (d.spanTo last)) ∧
    (¬ ∀ (lines : List Text) (anchor : Text) (d : Declaration lines anchor), d.IsPlain →
      ¬ d.IsEnd 0 → ∃ last, d.IsEnd last ∧ find? lines anchor = some (d.spanTo last)) ∧
    ¬ ∀ (lines : List Text) (anchor : Text) (d : Declaration lines anchor), ¬ d.IsEnd 0 →
      (∀ last, d.IsEnd last → (d.upTo last).Settles) →
      ∃ last, d.IsEnd last ∧ find? lines anchor = some (d.spanTo last) := by
  have hone : oneLineDeclaration.IsEnd 0 :=
    .inl ⟨"() \x7b ".toList, [], rfl, "() ".toList, " ".toList, by decide, by decide, by decide⟩
  have hjoined : joinedDeclaration.IsEnd 1 :=
    .inl ⟨[], " void g() \x7b".toList, rfl, "() ".toList, [], by decide, by decide, by decide⟩
  have hfollowing : followingDeclaration.IsEnd 2 :=
    .inl ⟨[], [], rfl, "() ".toList, "x();".toList, by decide, by decide, by decide⟩
  refine ⟨fun h => ?_, fun h => ?_, fun h => ?_⟩
  · obtain ⟨last, hlast, hfind⟩ := h _ _ oneLineDeclaration ⟨by decide, by decide, by decide⟩
    obtain rfl := hlast.unique hone
    revert hfind
    decide
  · obtain ⟨last, hlast, hfind⟩ := h _ _ joinedDeclaration ⟨by decide, by decide, by decide⟩
      fun hzero => nomatch hzero.unique hjoined
    obtain rfl := hlast.unique hjoined
    revert hfind
    decide
  · obtain ⟨last, hlast, hfind⟩ := h _ _ followingDeclaration
      (fun hzero => nomatch hzero.unique hfollowing)
      fun last hlast => hlast.unique hfollowing ▸ by decide
    obtain rfl := hlast.unique hfollowing
    revert hfind
    decide

end Method

end TemplateMap
