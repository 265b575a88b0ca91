import TableCatalog.Proofs.Settled

/-!
# Quoted text is read for itself

Each reader of quoted text depends on the text up to its closing mark alone, and on the
character after it only where a doubled mark would go on.
-/

namespace TableCatalog.Quoted

open Lexer

variable (line : Bool) {close : Char} {rest content : List Char} {place : Location}
  {read : List Char} {after : Cursor}

/-- A single mark closes. -/
theorem doubled_close (single : rest.head? ≠ some close) :
    doubled close (close :: rest) place read = some (read.reverse, ⟨rest, place.next close⟩) := by
  cases rest with
  | nil => simp [doubled]
  | cons d rest =>
    have differs : d ≠ close := by simpa using single
    simp [doubled, differs]

/-- Any other character is content. -/
theorem doubled_other {c : Char} (differs : c ≠ close) :
    doubled close (c :: rest) place read = doubled close rest (place.next c) (c :: read) := by
  cases rest with
  | nil => simp [doubled, differs]
  | cons d rest => simp [doubled, differs]

/-- A quoted word stands up to its closing mark. -/
theorem settled_doubled (printed : close ≠ '\n')
    (found : doubled close rest place read = some (content, after)) :
    Settled line (fun cursor result => doubled close cursor.rest cursor.place read = some result)
      ⟨rest, place⟩ content after := by
  fun_induction doubled close rest place read with
  | case1 => simp at found
  | case2 c place read closes =>
    obtain rfl : c = close := by simpa using closes
    obtain ⟨rfl, rfl⟩ := by simpa using found
    refine Settled.char fun kept place continues => ?_
    exact doubled_close (continues.head?_ne printed (by simp))
  | case3 => simp at found
  | case4 c d rest place read closes again ih =>
    obtain rfl : c = close := by simpa using closes
    obtain rfl : d = c := by simpa using again
    refine Settled.cons₂ (ih found) fun rest place after inside => ?_
    simpa [doubled] using inside
  | case5 c d rest place read closes single =>
    obtain rfl : c = close := by simpa using closes
    obtain ⟨rfl, rfl⟩ := by simpa using found
    refine Settled.char fun kept place continues => ?_
    exact doubled_close (continues.head?_ne printed (by simpa using single))
  | case6 c d rest place read other ih =>
    have differs : c ≠ close := by simpa using other
    refine Settled.cons (ih found) fun rest place after inside => ?_
    rw [doubled_other differs]
    exact inside

variable {escapes : Bool}

/-- A single mark closes where a backslash may escape it. -/
theorem escaped_close (single : rest.head? ≠ some close) :
    escaped close escapes (close :: rest) place read =
      some (read.reverse, ⟨rest, place.next close⟩) := by
  cases rest with
  | nil => simp [escaped]
  | cons d rest =>
    have differs : d ≠ close := by simpa using single
    simp [escaped, differs]

/-- A character that neither closes nor escapes is content. -/
theorem escaped_other {c : Char} (differs : c ≠ close) (plain : (escapes && c == '\\') = false) :
    escaped close escapes (c :: rest) place read =
      escaped close escapes rest (place.next c) (c :: read) := by
  cases rest with
  | nil => simp [escaped, differs]
  | cons d rest => simp_all [escaped]

/-- A text constant stands up to its closing mark. -/
theorem settled_escaped (printed : close ≠ '\n')
    (found : escaped close escapes rest place read = some (content, after)) :
    Settled line
      (fun cursor result => escaped close escapes cursor.rest cursor.place read = some result)
      ⟨rest, place⟩ content after := by
  fun_induction escaped close escapes rest place read with
  | case1 => simp at found
  | case2 c place read closes =>
    obtain rfl : c = close := by simpa using closes
    obtain ⟨rfl, rfl⟩ := by simpa using found
    refine Settled.char fun kept place continues => ?_
    exact escaped_close (continues.head?_ne printed (by simp))
  | case3 => simp at found
  | case4 c d rest place read closes again ih =>
    obtain rfl : c = close := by simpa using closes
    obtain rfl : d = c := by simpa using again
    refine Settled.cons₂ (ih found) fun rest place after inside => ?_
    simpa [escaped] using inside
  | case5 c d rest place read closes single =>
    obtain rfl : c = close := by simpa using closes
    obtain ⟨rfl, rfl⟩ := by simpa using found
    refine Settled.char fun kept place continues => ?_
    exact escaped_close (continues.head?_ne printed (by simpa using single))
  | case6 c d rest place read other escape ih =>
    refine Settled.cons₂ (ih found) fun rest place after inside => ?_
    simpa [escaped, other, escape] using inside
  | case7 c d rest place read other plain ih =>
    have differs : c ≠ close := by simpa using other
    refine Settled.cons (ih found) fun rest place after inside => ?_
    rw [escaped_other differs (by simpa using plain)]
    exact inside

/-- The third mark in a row closes; fewer are content. -/
theorem tripled_close {run : Nat} :
    tripled close escapes (close :: rest) place run read =
      if run = 2 then some ((read.drop 2).reverse, ⟨rest, place.next close⟩)
      else tripled close escapes rest (place.next close) (run + 1) (close :: read) := by
  cases rest with
  | nil => by_cases third : run = 2 <;> simp [tripled, third]
  | cons d rest => by_cases third : run = 2 <;> simp [tripled, third]

/-- Any other character ends the row of marks. -/
theorem tripled_other {c : Char} {run : Nat} (differs : c ≠ close)
    (plain : (escapes && c == '\\') = false) :
    tripled close escapes (c :: rest) place run read =
      tripled close escapes rest (place.next c) 0 (c :: read) := by
  cases rest with
  | nil => simp [tripled, differs]
  | cons d rest => simp_all [tripled]

/-- A text constant between triple marks stands up to the third closing mark. -/
theorem settled_tripled {run : Nat}
    (found : tripled close escapes rest place run read = some (content, after)) :
    Settled line
      (fun cursor result => tripled close escapes cursor.rest cursor.place run read = some result)
      ⟨rest, place⟩ content after := by
  fun_induction tripled close escapes rest place run read with
  | case1 => simp at found
  | case2 c place run read closes =>
    obtain ⟨rfl, rfl⟩ : c = close ∧ run = 2 := by simpa using closes
    obtain ⟨rfl, rfl⟩ := by simpa using found
    exact Settled.char fun kept place continues => by simp [tripled_close]
  | case3 => simp at found
  | case4 c d rest place run read closes third =>
    obtain rfl : c = close := by simpa using closes
    obtain ⟨rfl, rfl⟩ := by simpa using found
    exact Settled.char fun kept place continues => by simp_all [tripled_close]
  | case5 c d rest place run read closes early ih =>
    obtain rfl : c = close := by simpa using closes
    refine Settled.cons (ih found) fun rest place after inside => ?_
    rw [tripled_close, if_neg (by simpa using early)]
    exact inside
  | case6 c d rest place run read other escape ih =>
    refine Settled.cons₂ (ih found) fun rest place after inside => ?_
    simpa [tripled, other, escape] using inside
  | case7 c d rest place run read other plain ih =>
    have differs : c ≠ close := by simpa using other
    refine Settled.cons (ih found) fun rest place after inside => ?_
    rw [tripled_other differs (by simpa using plain)]
    exact inside

/-- A block comment stands up to its closing mark. -/
theorem settled_comment {nests : Bool} {depth : Nat}
    (found : comment nests rest place depth read = some (content, after)) :
    Settled line
      (fun cursor result => comment nests cursor.rest cursor.place depth read = some result)
      ⟨rest, place⟩ content after := by
  fun_induction comment nests rest place depth read with
  | case1 => simp at found
  | case2 => simp at found
  | case3 c d rest place depth read opens ih =>
    refine Settled.cons₂ (ih found) fun rest place after inside => ?_
    simpa [comment, opens] using inside
  | case4 c d rest place read opens closes =>
    obtain ⟨rfl, rfl⟩ := by simpa using found
    refine ⟨[c, d], rfl, fun kept place continues => ?_⟩
    simp [comment, opens, closes, Location.after_cons, Location.after_nil]
  | case5 c d rest place read opens closes depth ih =>
    refine Settled.cons₂ (ih found) fun rest place after inside => ?_
    simpa [comment, opens, closes] using inside
  | case6 c d rest place depth read opens closes ih =>
    -- the second character is part of the comment, so it stands again
    obtain ⟨run, shape, stands⟩ := ih found
    cases run with
    | nil =>
      have empty := stands [] place (Continues.nil line after.rest)
      simp [comment] at empty
    | cons e run =>
      obtain ⟨rfl, rfl⟩ : d = e ∧ rest = run ++ after.rest := by simpa using shape
      refine ⟨c :: d :: run, rfl, fun kept place continues => ?_⟩
      have inside := stands kept (place.next c) continues
      simpa [comment, opens, closes, Location.after_cons] using inside

/-- Text between dollar signs stands up to the closing pair. -/
theorem settled_dollars {pending : Bool}
    (found : dollars rest place pending read = some (content, after)) :
    Settled line
      (fun cursor result => dollars cursor.rest cursor.place pending read = some result)
      ⟨rest, place⟩ content after := by
  fun_induction dollars rest place pending read with
  | case1 => simp at found
  | case2 c rest place read closes =>
    obtain ⟨rfl, rfl⟩ := by simpa using found
    exact Settled.char fun kept place continues => by simp [dollars, closes]
  | case3 c rest place read other ih =>
    refine Settled.cons (ih found) fun rest place after inside => ?_
    simpa [dollars, other] using inside
  | case4 c rest place pending read single dollar ih =>
    refine Settled.cons (ih found) fun rest place after inside => ?_
    simpa [dollars, single, dollar] using inside
  | case5 c rest place pending read single other ih =>
    refine Settled.cons (ih found) fun rest place after inside => ?_
    simpa [dollars, single, other] using inside

/-- Text between dollar-signed tags stands up to the closing tag. -/
theorem settled_tagged {tag : List Char}
    (found : tagged tag rest place read = some (content, after)) :
    Settled line (fun cursor result => tagged tag cursor.rest cursor.place read = some result)
      ⟨rest, place⟩ content after := by
  fun_induction tagged tag rest place read with
  | case1 => simp at found
  | case2 c rest place read extended closes =>
    obtain ⟨rfl, rfl⟩ := by simpa using found
    refine Settled.char fun kept place continues => ?_
    rw [tagged, if_pos closes]
  | case3 c rest place read extended other ih =>
    refine Settled.cons (ih found) fun rest place after inside => ?_
    rw [tagged, if_neg other]
    exact inside

end TableCatalog.Quoted
