/-!
# Vectors and their indices

What a scheduler keeps for each machine and for each group is a vector,
read and written at indices that are in range by their type. Reading is
`Vector.get`; this module has the writing that goes with it.
-/

namespace Vector

variable {α β : Type} {n : Nat}

/-- The vector with another element at an index. -/
def put (xs : Vector α n) (i : Fin n) (a : α) : Vector α n :=
  xs.set i a

theorem get_put_self (xs : Vector α n) (i : Fin n) (a : α) : (xs.put i a).get i = a :=
  getElem_set_self i.isLt

theorem get_put_of_ne (xs : Vector α n) {i j : Fin n} (a : α) (h : j ≠ i) :
    (xs.put i a).get j = xs.get j :=
  getElem_set_ne i.isLt j.isLt fun e => h (Fin.ext e.symm)

/-- Writing what is there changes nothing. -/
theorem put_get (xs : Vector α n) (i : Fin n) : xs.put i (xs.get i) = xs :=
  set_getElem_self i.isLt

/-- What is written last counts. -/
theorem put_put (xs : Vector α n) (i : Fin n) (a b : α) : (xs.put i a).put i b = xs.put i b :=
  set_set a i.isLt

/-- Writing at different indices, in either order. -/
theorem put_comm (xs : Vector α n) {i j : Fin n} (a b : α) (h : i ≠ j) :
    (xs.put i a).put j b = (xs.put j b).put i a :=
  set_comm a b fun e => h (Fin.ext e)

theorem get_mapped (f : α → β) (xs : Vector α n) (i : Fin n) :
    (xs.map f).get i = f (xs.get i) :=
  getElem_map ..

theorem map_put (f : α → β) (xs : Vector α n) (i : Fin n) (a : α) :
    (xs.put i a).map f = (xs.map f).put i (f a) :=
  map_set

/-- The only element of a vector that was empty before. -/
theorem get_push_alone (xs : Vector α 0) (a : α) (i : Fin 1) : (xs.push a).get i = a := by
  obtain rfl : i = 0 := Subsingleton.elim i 0
  exact getElem_push_last

end Vector
