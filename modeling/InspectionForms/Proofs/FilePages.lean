import InspectionForms.Database.Image
import Mathlib.Data.List.GetD

namespace InspectionForms

/-- A page as it stands in a file. -/
def filePage (file : List UInt8) (pageSize number : Nat) : List UInt8 :=
  byteRange file ((number - 1) * pageSize) pageSize

section Bytes

variable {bytes patch : List UInt8} {offset count size i : Nat}

theorem length_rightpad : (bytes.rightpad count 0).length = max bytes.length count := by
  rw [List.rightpad, List.length_append, List.length_replicate]
  omega

theorem length_byteRange : (byteRange bytes offset count).length = count := by
  rw [byteRange, length_rightpad, List.length_take]
  omega

theorem getD_rightpad : (bytes.rightpad count 0).getD i 0 = bytes.getD i 0 := by
  rw [List.rightpad, List.getD_eq_getElem?_getD, List.getD_eq_getElem?_getD]
  rcases Nat.lt_or_ge i bytes.length with inside | behind
  · rw [List.getElem?_append_left inside]
  · rw [List.getElem?_append_right behind, List.getElem?_eq_none behind, List.getElem?_replicate]
    split <;> rfl

theorem getD_take : (bytes.take count).getD i 0 = if i < count then bytes.getD i 0 else 0 := by
  rw [List.getD_eq_getElem?_getD, List.getElem?_take, List.getD_eq_getElem?_getD]
  split <;> rfl

theorem getD_drop : (bytes.drop offset).getD i 0 = bytes.getD (offset + i) 0 := by
  rw [List.getD_eq_getElem?_getD, List.getElem?_drop, List.getD_eq_getElem?_getD]

theorem getD_byteRange :
    (byteRange bytes offset count).getD i 0 = if i < count then bytes.getD (offset + i) 0 else 0 := by
  rw [byteRange, getD_rightpad, getD_take, getD_drop]

theorem ext_getD {others : List UInt8} (length : bytes.length = others.length)
    (same : ∀ i < bytes.length, bytes.getD i 0 = others.getD i 0) : bytes = others := by
  refine List.ext_getElem length fun i inside alsoInside => ?_
  have each := same i inside
  rwa [List.getD_eq_getElem _ _ inside, List.getD_eq_getElem _ _ alsoInside] at each

theorem byteRange_append {before after : List UInt8} (place : before.length = offset)
    (whole : bytes.length = count) : byteRange (before ++ (bytes ++ after)) offset count = bytes := by
  subst place whole
  rw [byteRange, List.drop_left, List.take_left, List.rightpad, Nat.sub_self, List.replicate_zero, List.append_nil]

theorem byteRange_whole (whole : bytes.length = count) : byteRange bytes 0 count = bytes := by
  refine ext_getD (length_byteRange.trans whole.symm) fun i inside => ?_
  rw [length_byteRange] at inside
  rw [getD_byteRange, if_pos inside, Nat.zero_add]

theorem length_overwrite (room : offset + patch.length ≤ fileSizeLimit) :
    (overwrite bytes offset patch).length = max bytes.length (offset + patch.length) := by
  rw [overwrite, if_neg (Nat.not_lt.mpr room), List.length_append, List.length_append, List.length_take,
    length_rightpad, List.length_drop]
  omega

theorem getD_overwrite (room : offset + patch.length ≤ fileSizeLimit) :
    (overwrite bytes offset patch).getD i 0 =
      if offset ≤ i ∧ i < offset + patch.length then patch.getD (i - offset) 0 else bytes.getD i 0 := by
  have before : ((bytes.rightpad offset 0).take offset).length = offset := by
    rw [List.length_take, length_rightpad]
    omega
  rw [overwrite, if_neg (Nat.not_lt.mpr room)]
  rcases Nat.lt_or_ge i offset with left | right
  · rw [List.append_assoc, List.getD_append _ _ _ _ (before.symm ▸ left), getD_take, if_pos left, getD_rightpad,
      if_neg fun inside => Nat.not_le.mpr left inside.1]
  · rw [List.append_assoc, List.getD_append_right _ _ _ _ (before.symm ▸ right), before]
    rcases Nat.lt_or_ge i (offset + patch.length) with inside | behind
    · rw [List.getD_append _ _ _ _ (by omega), if_pos ⟨right, inside⟩]
    · rw [List.getD_append_right _ _ _ _ (by omega), getD_drop, if_neg fun inside => Nat.not_lt.mpr behind inside.2]
      congr 1
      omega

theorem length_resize (room : size ≤ fileSizeLimit) : (resize bytes size).length = size := by
  rw [resize, if_neg (Nat.not_lt.mpr room), length_rightpad, List.length_take]
  omega

theorem getD_resize (room : size ≤ fileSizeLimit) :
    (resize bytes size).getD i 0 = if i < size then bytes.getD i 0 else 0 := by
  rw [resize, if_neg (Nat.not_lt.mpr room), getD_rightpad, getD_take]

theorem bigEndian_wordBytes {n : Nat} (small : n < 0x100000000) : bigEndian (wordBytes n) = n := by
  simp only [bigEndian, wordBytes, List.foldl_cons, List.foldl_nil, UInt8.toNat_ofNat']
  omega

theorem wordAt_append {before after : List UInt8} {n : Nat} (place : before.length = offset)
    (small : n < 0x100000000) : wordAt (before ++ (wordBytes n ++ after)) offset = n := by
  have four : (wordBytes n).length = 4 := rfl
  rw [wordAt, byteRange_append place four, bigEndian_wordBytes small]

end Bytes

section Pages

variable {file page : List UInt8} {pageSize number other pageCount : Nat}

theorem length_filePage : (filePage file pageSize number).length = pageSize := length_byteRange

theorem filePage_congr {others : List UInt8}
    (same : ∀ i < pageSize, file.getD ((number - 1) * pageSize + i) 0 = others.getD ((number - 1) * pageSize + i) 0) :
    filePage file pageSize number = filePage others pageSize number := by
  refine ext_getD (length_filePage.trans length_filePage.symm) fun i inside => ?_
  rw [length_filePage] at inside
  rw [filePage, filePage, getD_byteRange, getD_byteRange, if_pos inside, if_pos inside, same i inside]

theorem filePage_eq_of_getD (whole : page.length = pageSize)
    (same : ∀ i < pageSize, file.getD ((number - 1) * pageSize + i) 0 = page.getD i 0) :
    filePage file pageSize number = page := by
  refine ext_getD (length_filePage.trans whole.symm) fun i inside => ?_
  rw [length_filePage] at inside
  rw [filePage, getD_byteRange, if_pos inside, same i inside]

theorem offset_add_pageSize (positive : 0 < number) (pageSize : Nat) :
    (number - 1) * pageSize + pageSize = number * pageSize := by
  rw [← Nat.succ_mul, Nat.succ_eq_add_one, Nat.sub_add_cancel positive]

/-- Different pages share no byte. -/
theorem apart_of_ne (different : other ≠ number) (positive : 0 < number) (alsoPositive : 0 < other) (pageSize : Nat) :
    other * pageSize ≤ (number - 1) * pageSize ∨ number * pageSize ≤ (other - 1) * pageSize := by
  rcases Nat.lt_or_gt_of_ne different with less | more
  · exact .inl (Nat.mul_le_mul_right _ (by omega))
  · exact .inr (Nat.mul_le_mul_right _ (by omega))

theorem filePage_overwrite (positive : 0 < number) (room : number * pageSize ≤ fileSizeLimit)
    (whole : page.length = pageSize) (alsoPositive : 0 < other) :
    filePage (overwrite file ((number - 1) * pageSize) page) pageSize other =
      if other = number then page else filePage file pageSize other := by
  have ends := offset_add_pageSize positive pageSize
  have room : (number - 1) * pageSize + page.length ≤ fileSizeLimit := by rwa [whole, ends]
  split
  · next same =>
    subst same
    refine filePage_eq_of_getD whole fun i inside => ?_
    rw [getD_overwrite room, if_pos (by omega), Nat.add_sub_cancel_left]
  · next different =>
    have alsoEnds := offset_add_pageSize alsoPositive pageSize
    have apart := apart_of_ne different positive alsoPositive pageSize
    refine filePage_congr fun i inside => ?_
    rw [getD_overwrite room, if_neg (by omega)]

theorem filePage_resize {size : Nat} (room : size ≤ fileSizeLimit) (positive : 0 < number)
    (inside : number * pageSize ≤ size) :
    filePage (resize file size) pageSize number = filePage file pageSize number := by
  have ends := offset_add_pageSize positive pageSize
  refine filePage_congr fun i _ => ?_
  rw [getD_resize room, if_pos (by omega)]

theorem eq_of_filePages {others : List UInt8} (length : file.length = pageCount * pageSize)
    (alsoLength : others.length = pageCount * pageSize)
    (same : ∀ number, 0 < number → number ≤ pageCount →
      filePage file pageSize number = filePage others pageSize number) : file = others := by
  refine ext_getD (length.trans alsoLength.symm) fun i inside => ?_
  rw [length] at inside
  have filled : 0 < pageSize := Nat.pos_of_ne_zero fun none => by simp [none] at inside
  have place : i % pageSize < pageSize := Nat.mod_lt _ filled
  have paged : (filePage file pageSize (i / pageSize + 1)).getD (i % pageSize) 0 =
      (filePage others pageSize (i / pageSize + 1)).getD (i % pageSize) 0 := by
    rw [same _ (Nat.succ_pos _) (Nat.div_lt_of_lt_mul (Nat.mul_comm _ _ ▸ inside))]
  rwa [filePage, filePage, getD_byteRange, getD_byteRange, if_pos place, if_pos place, Nat.add_sub_cancel,
    Nat.div_add_mod'] at paged

end Pages

namespace Log

/-- The frames of a log hold whole pages, which have numbers. -/
structure Sound (log : Log) : Prop where
  whole : ∀ frame ∈ log.frames, frame.page.length = log.pageSize
  numbered : ∀ frame ∈ log.frames, 0 < frame.number

theorem sound_readFrames {word : List UInt8 → Nat} {salt bytes : List UInt8} {pageSize count : Nat}
    {sums : UInt32 × UInt32} {frames : List LogFrame} {log : Log} (sound : log.Sound)
    (found : ∀ frame ∈ frames, frame.page.length = pageSize ∧ 0 < frame.number) :
    (readFrames word salt pageSize count bytes sums frames log).Sound := by
  induction count generalizing bytes sums frames log with
  | zero => exact sound
  | succ count ih =>
    unfold readFrames
    dsimp only
    split
    · exact sound
    · next fits =>
      have found : ∀ frame ∈ ⟨wordAt bytes 0, byteRange bytes frameHeaderSize pageSize⟩ :: frames,
          frame.page.length = pageSize ∧ 0 < frame.number :=
        List.forall_mem_cons.mpr ⟨⟨length_byteRange, Nat.pos_of_ne_zero fun none => fits (.inl none)⟩, found⟩
      refine ih ?_ found
      split
      · exact sound
      · exact ⟨fun frame member => (found frame member).1, fun frame member => (found frame member).2⟩

theorem sound_of_ofBytes? {bytes : List UInt8} {log : Log} (read : ofBytes? bytes = some log) : log.Sound := by
  have none : empty.Sound := ⟨nofun, nofun⟩
  unfold ofBytes? at read
  dsimp only at read
  generalize (if wordAt bytes 0 % 2 = 0 then littleEndian else bigEndian) = word at read
  split at read
  · exact Option.some.inj read ▸ none
  · split at read
    · cases read
    · exact Option.some.inj read ▸ sound_readFrames none nofun

variable {log : Log} {file after : List UInt8} {number : Nat}

theorem filePage_writeFrames {frames : List LogFrame} {pageSize pageCount : Nat}
    (whole : ∀ frame ∈ frames, frame.page.length = pageSize) (numbered : ∀ frame ∈ frames, 0 < frame.number)
    (room : pageCount * pageSize ≤ fileSizeLimit) (positive : 0 < number) (counted : number ≤ pageCount) :
    filePage (frames.foldr (fun frame file =>
      if pageCount < frame.number then file else overwrite file ((frame.number - 1) * pageSize) frame.page) file)
        pageSize number =
      ((frames.find? fun frame => frame.number == number).map LogFrame.page).getD (filePage file pageSize number) := by
  induction frames with
  | nil => rfl
  | cons frame frames ih =>
    have ih := ih (fun frame member => whole frame (.tail _ member)) fun frame member => numbered frame (.tail _ member)
    rw [List.foldr_cons, List.find?_cons]
    split
    · next beyond =>
      rw [beq_eq_false_iff_ne.mpr (by omega)]
      exact ih
    · next among =>
      have room := Nat.le_trans (Nat.mul_le_mul_right pageSize (Nat.not_lt.mp among)) room
      rw [filePage_overwrite (numbered frame List.mem_cons_self) room (whole frame List.mem_cons_self) positive]
      by_cases same : number = frame.number
      · rw [if_pos same, beq_iff_eq.mpr same.symm]
        rfl
      · rw [if_neg same, beq_eq_false_iff_ne.mpr (Ne.symm same)]
        exact ih

/-- Writing a log back changes no page: the file then holds what stood in the file and the log together before it. -/
theorem filePage_writeBack? (sound : log.Sound) (room : log.pageCount * log.pageSize ≤ fileSizeLimit)
    (written : log.writeBack? file = some after) (positive : 0 < number) (counted : number ≤ log.pageCount) :
    filePage after log.pageSize number = (Image.mk file log).page log.pageSize number := by
  unfold writeBack? at written
  dsimp only at written
  split at written
  · omega
  · split at written
    · cases written
    · obtain rfl := Option.some.inj written
      rw [filePage_resize room positive (Nat.mul_le_mul_right _ counted),
        filePage_writeFrames sound.whole sound.numbered room positive counted, Image.page, page?]
      cases found : log.frames.find? fun frame => frame.number == number with
      | none => rfl
      | some frame =>
        exact (byteRange_whole (sound.whole frame (List.mem_of_find?_eq_some found))).symm

theorem length_writeBack? (room : log.pageCount * log.pageSize ≤ fileSizeLimit) (counted : 0 < log.pageCount)
    (written : log.writeBack? file = some after) : after.length = log.pageCount * log.pageSize := by
  unfold writeBack? at written
  dsimp only at written
  rw [if_neg (Nat.ne_of_gt counted)] at written
  split at written
  · cases written
  · exact Option.some.inj written ▸ length_resize room

end Log

end InspectionForms
