import InspectionForms.Database.Journal
import InspectionForms.Proofs.FilePages

namespace InspectionForms

namespace Journal

variable {journal before initial file : List UInt8} {sectorSize pageSize pageCount seed offset n : Nat}
  {numbers rest : List Nat}

/-- The record of a page as it stood before a change. -/
structure Holds (journal before : List UInt8) (pageSize pageCount seed offset n : Nat) : Prop where
  inside : offset + pageSize + 8 ≤ journal.length
  positive : 0 < n
  counted : n ≤ pageCount
  number : wordAt journal offset = n
  page : byteRange journal (offset + 4) pageSize = filePage before pageSize n
  checksum : wordAt journal (offset + pageSize + 8 - 4) = checksum seed (filePage before pageSize n)

/-- Records of some pages, one behind the other. -/
def HoldsAll (journal before : List UInt8) (pageSize pageCount seed : Nat) : Nat → List Nat → Prop
  | _, [] => True
  | offset, n :: rest =>
    Holds journal before pageSize pageCount seed offset n ∧
      HoldsAll journal before pageSize pageCount seed (offset + pageSize + 8) rest

/-- A file into which some pages have been put back as they stood before a change. Its other pages are those from the
start. -/
structure PutBack (before initial : List UInt8) (pageSize pageCount : Nat) (numbers : List Nat) (file : List UInt8) :
    Prop where
  positive : ∀ n ∈ numbers, 0 < n
  held : ∀ n ∈ numbers, filePage file pageSize n = filePage before pageSize n
  others : ∀ n, 0 < n → n ∉ numbers → filePage file pageSize n = filePage initial pageSize n
  grown : initial.length ≤ file.length
  reached : ∀ n ∈ numbers, n * pageSize ≤ file.length
  bounded : file.length ≤ max initial.length (pageCount * pageSize)

theorem PutBack.nothing : PutBack before initial pageSize pageCount [] initial :=
  ⟨nofun, nofun, fun _ _ _ => rfl, Nat.le_refl _, nofun, Nat.le_max_left _ _⟩

theorem PutBack.page (put : PutBack before initial pageSize pageCount numbers file)
    (room : pageCount * pageSize ≤ fileSizeLimit) (positive : 0 < n) (counted : n ≤ pageCount) :
    PutBack before initial pageSize pageCount (numbers ++ [n])
      (overwrite file ((n - 1) * pageSize) (filePage before pageSize n)) := by
  have inside : n * pageSize ≤ pageCount * pageSize := Nat.mul_le_mul_right _ counted
  have ends := offset_add_pageSize positive pageSize
  have whole : (filePage before pageSize n).length = pageSize := length_filePage
  have length : (overwrite file ((n - 1) * pageSize) (filePage before pageSize n)).length =
      max file.length (n * pageSize) := by
    rw [length_overwrite (by omega), whole, ends]
  have pages {other : Nat} (otherPositive : 0 < other) :
      filePage (overwrite file ((n - 1) * pageSize) (filePage before pageSize n)) pageSize other =
        if other = n then filePage before pageSize n else filePage file pageSize other :=
    filePage_overwrite positive (Nat.le_trans inside room) whole otherPositive
  refine ⟨?_, ?_, fun other otherPositive missing => ?_, Nat.le_trans put.grown (length ▸ Nat.le_max_left _ _), ?_, ?_⟩
  · exact List.forall_mem_append.mpr ⟨put.positive, List.forall_mem_singleton.mpr positive⟩
  · refine List.forall_mem_append.mpr ⟨fun other member => ?_, List.forall_mem_singleton.mpr ?_⟩
    · rw [pages (put.positive other member), put.held other member]
      split
      · next same => rw [same]
      · rfl
    · rw [pages positive, if_pos rfl]
  · rw [List.mem_append, List.mem_singleton, not_or] at missing
    rw [pages otherPositive, if_neg missing.2, put.others other otherPositive missing.1]
  · refine List.forall_mem_append.mpr ⟨fun other member => ?_, List.forall_mem_singleton.mpr ?_⟩
    · exact Nat.le_trans (put.reached other member) (length ▸ Nat.le_max_left _ _)
    · exact length ▸ Nat.le_max_right _ _
  · have bounded := put.bounded
    omega

theorem ne_lockPage (room : pageCount * pageSize ≤ fileSizeLimit) (filled : 0 < pageSize) (counted : n ≤ pageCount) :
    n ≠ lockPage pageSize := by
  have bound : n * pageSize ≤ 0x40000000 :=
    Nat.le_trans (Nat.mul_le_mul_right _ counted) (Nat.le_trans room (by decide))
  exact Nat.ne_of_lt (Nat.lt_succ_of_le ((Nat.le_div_iff_mul_le filled).mpr bound))

/-- Records that are right are all put back. -/
theorem PutBack.records (put : PutBack before initial pageSize pageCount numbers file)
    (room : pageCount * pageSize ≤ fileSizeLimit) (filled : 0 < pageSize)
    (held : HoldsAll journal before pageSize pageCount seed offset rest) :
    ∃ last, putBackRecords journal pageSize seed pageCount rest.length offset file =
        (last, some (offset + rest.length * (pageSize + 8))) ∧
      PutBack before initial pageSize pageCount (numbers ++ rest) last := by
  induction rest generalizing numbers file offset with
  | nil => exact ⟨file, by simp [putBackRecords], by simpa using put⟩
  | cons n rest ih =>
    obtain ⟨first, held⟩ := held
    obtain ⟨last, ran, put⟩ := ih (put.page room first.positive first.counted) held
    refine ⟨last, ?_, by simpa using put⟩
    have inside := first.inside
    have positive := first.positive
    have unlocked := ne_lockPage room filled first.counted
    rw [List.length_cons, putBackRecords, first.number, if_neg (by omega), if_neg (Nat.not_lt.mpr first.counted),
      first.page, first.checksum, if_neg (by omega), ran, Nat.succ_mul]
    congr 2
    omega

/-- Where the section that comes next begins, in the sector behind an offset. -/
def nextSector (sectorSize offset : Nat) : Nat := (offset + sectorSize - 1) / sectorSize * sectorSize

/-- The sections of a journal from an offset on, which hold some pages. -/
inductive Sections (journal before : List UInt8) (sectorSize pageSize pageCount : Nat) : Nat → List Nat → Prop
  | ended {offset : Nat} (h : header? journal sectorSize (nextSector sectorSize offset) = none) :
    Sections journal before sectorSize pageSize pageCount offset []
  | follows {offset : Nat} {header : JournalHeader} {numbers rest : List Nat}
    (headed : header? journal sectorSize (nextSector sectorSize offset) = some header)
    (counted : header.records journal sectorSize pageSize = numbers.length)
    (held : HoldsAll journal before pageSize pageCount header.seed (nextSector sectorSize offset + sectorSize) numbers)
    (later : Sections journal before sectorSize pageSize pageCount
      (nextSector sectorSize offset + sectorSize + numbers.length * (pageSize + 8)) rest) :
    Sections journal before sectorSize pageSize pageCount offset (numbers ++ rest)

theorem le_nextSector (filled : 0 < sectorSize) (offset : Nat) : offset ≤ nextSector sectorSize offset := by
  have whole := Nat.div_add_mod (offset + sectorSize - 1) sectorSize
  have part := Nat.mod_lt (offset + sectorSize - 1) filled
  rw [nextSector, Nat.mul_comm]
  omega

theorem inside_of_header? {header : JournalHeader} (headed : header? journal sectorSize offset = some header) :
    offset + sectorSize ≤ journal.length := by
  unfold header? at headed
  split at headed
  · next found => exact found.1
  · cases headed

theorem PutBack.sections (put : PutBack before initial pageSize pageCount numbers file)
    (room : pageCount * pageSize ≤ fileSizeLimit) (filled : 0 < pageSize) (sectors : 0 < sectorSize)
    (there : Sections journal before sectorSize pageSize pageCount offset rest) {bound : Nat}
    (enough : journal.length ≤ bound + offset) :
    PutBack before initial pageSize pageCount (numbers ++ rest)
      (putBackSections journal sectorSize pageSize pageCount bound offset file) := by
  induction there generalizing numbers file bound with
  | ended none =>
    cases bound with
    | zero => simpa [putBackSections] using put
    | succ bound =>
      rw [nextSector] at none
      rw [putBackSections, none]
      simpa using put
  | @follows offset header among rest headed counted held later ih =>
    have begins := le_nextSector sectors offset
    have inside := inside_of_header? headed
    cases bound with
    | zero => omega
    | succ bound =>
      obtain ⟨last, ran, put⟩ := put.records room filled held
      have put : PutBack before initial pageSize pageCount (numbers ++ among ++ rest)
          (putBackSections journal sectorSize pageSize pageCount bound
            (nextSector sectorSize offset + sectorSize + among.length * (pageSize + 8)) last) := ih put (by omega)
      rw [List.append_assoc] at put
      rw [nextSector] at headed ran
      rw [putBackSections, headed]
      dsimp only
      rw [counted, ran]
      exact put

theorem restoreSize_cases (file : List UInt8) (pageSize pageCount : Nat) :
    (restoreSize file pageSize pageCount = file ∧ file.length < pageCount * pageSize) ∨
      restoreSize file pageSize pageCount = resize file (pageCount * pageSize) := by
  unfold restoreSize
  rw [Nat.mul_comm]
  dsimp only
  split
  · next short => exact .inl ⟨rfl, short.1⟩
  · exact .inr rfl

/-- A file becomes the one before a change again if each of its pages that may have changed, or that it lacks, has a
record in the journal. -/
theorem takeBack_eq {presumedSector presumedPage : Nat} {header : JournalHeader}
    (headed : header? journal presumedSector 0 = some header)
    (sectors : 32 ≤ sectorSize ∧ sectorSize ≤ 65536 ∧ isPowerOfTwo sectorSize) (pages : isPageSize pageSize)
    (toldSector : wordAt journal 20 = sectorSize)
    (toldPage : (if wordAt journal 24 = 0 then presumedPage else wordAt journal 24) = pageSize)
    (length : before.length = header.pageCount * pageSize) (room : before.length ≤ fileSizeLimit)
    (there : Sections journal before sectorSize pageSize header.pageCount 0 numbers)
    (kept : ∀ n, 0 < n → n ≤ header.pageCount → n ∉ numbers →
      n * pageSize ≤ file.length ∧ filePage file pageSize n = filePage before pageSize n) :
    takeBack journal file presumedSector presumedPage = before := by
  have filled : 0 < pageSize := by
    simp only [isPageSize, Bool.and_eq_true, decide_eq_true_eq] at pages
    omega
  rw [length] at room
  have put : PutBack before (restoreSize file pageSize header.pageCount) pageSize header.pageCount numbers
      (putBackSections journal sectorSize pageSize header.pageCount journal.length 0
        (restoreSize file pageSize header.pageCount)) :=
    PutBack.nothing.sections room filled (by omega) there (Nat.le_refl _)
  rw [takeBack, headed]
  dsimp only
  rw [toldSector, toldPage, if_pos ⟨sectors.1, sectors.2.1, sectors.2.2, pages⟩]
  generalize putBackSections journal sectorSize pageSize header.pageCount journal.length 0 _ = last at put
  refine eq_of_filePages ?_ length fun n positive counted => ?_
  · have grown := put.grown
    have bounded := put.bounded
    rcases restoreSize_cases file pageSize header.pageCount with ⟨same, short⟩ | resized
    · rw [same] at grown bounded
      have positive : 0 < header.pageCount := Nat.pos_of_ne_zero fun none => by simp [none] at short
      have missing : header.pageCount ∈ numbers := Decidable.byContradiction fun absurd =>
        Nat.not_le.mpr short (kept _ positive (Nat.le_refl _) absurd).1
      have reached := put.reached _ missing
      omega
    · rw [resized, length_resize room] at grown bounded
      omega
  · by_cases member : n ∈ numbers
    · exact put.held n member
    · obtain ⟨whole, same⟩ := kept n positive counted member
      rw [put.others n positive member, ← same]
      rcases restoreSize_cases file pageSize header.pageCount with ⟨left, -⟩ | resized
      · rw [left]
      · rw [resized, filePage_resize room positive (Nat.mul_le_mul_right _ counted)]

/-- The first sector of a journal. -/
def headSector (before : List UInt8) (sectorSize pageSize seed : Nat) (numbers : List Nat) : List UInt8 :=
  mark ++ (wordBytes numbers.length ++ (wordBytes seed ++ (wordBytes (before.length / pageSize) ++
    (wordBytes sectorSize ++ (wordBytes pageSize ++ List.replicate (sectorSize - 28) 0)))))

def record (before : List UInt8) (pageSize seed n : Nat) : List UInt8 :=
  wordBytes n ++ (filePage before pageSize n ++ wordBytes (checksum seed (filePage before pageSize n)))

/-- A journal of one section, as it is written before some pages of a file change. -/
def written (before : List UInt8) (sectorSize pageSize seed : Nat) (numbers : List Nat) : List UInt8 :=
  headSector before sectorSize pageSize seed numbers ++ numbers.flatMap (record before pageSize seed)

theorem length_headSector (room : 28 ≤ sectorSize) :
    (headSector before sectorSize pageSize seed numbers).length = sectorSize := by
  simp only [headSector, mark, wordBytes, List.length_append, List.length_cons, List.length_nil, List.length_replicate]
  omega

theorem length_record : (record before pageSize seed n).length = pageSize + 8 := by
  simp only [record, wordBytes, List.length_append, length_filePage, List.length_cons, List.length_nil]
  omega

theorem length_written (room : 28 ≤ sectorSize) :
    (written before sectorSize pageSize seed numbers).length = sectorSize + numbers.length * (pageSize + 8) := by
  rw [written, List.length_append, length_headSector room, List.length_flatMap,
    List.map_congr_left fun _ _ => length_record, List.map_const', List.sum_replicate_nat]

theorem header?_written (room : 28 ≤ sectorSize) (seeded : seed < 0x100000000) (few : numbers.length < 0x100000000)
    (small : before.length / pageSize < 0x100000000) :
    header? (written before sectorSize pageSize seed numbers) sectorSize 0 =
      some ⟨numbers.length, seed, before.length / pageSize⟩ := by
  have inside : 0 + sectorSize ≤ (written before sectorSize pageSize seed numbers).length := by
    rw [length_written room]
    omega
  have counts : wordAt (written before sectorSize pageSize seed numbers) 8 = numbers.length := by
    simp only [written, headSector, List.append_assoc]
    exact wordAt_append rfl few
  have seeds : wordAt (written before sectorSize pageSize seed numbers) 12 = seed := by
    simp only [written, headSector, List.append_assoc]
    rw [← List.append_assoc]
    exact wordAt_append rfl seeded
  have pageCounts : wordAt (written before sectorSize pageSize seed numbers) 16 = before.length / pageSize := by
    simp only [written, headSector, List.append_assoc]
    rw [← List.append_assoc, ← List.append_assoc]
    exact wordAt_append rfl small
  have marked : byteRange (written before sectorSize pageSize seed numbers) 0 8 = mark := by
    simp only [written, headSector, List.append_assoc]
    exact @byteRange_append mark 0 8 [] _ rfl rfl
  rw [header?, if_pos ⟨inside, marked⟩, counts, seeds, pageCounts]

theorem sectorSize_written (small : sectorSize < 0x100000000) :
    wordAt (written before sectorSize pageSize seed numbers) 20 = sectorSize := by
  simp only [written, headSector, List.append_assoc]
  rw [← List.append_assoc, ← List.append_assoc, ← List.append_assoc]
  exact wordAt_append rfl small

theorem pageSize_written (small : pageSize < 0x100000000) :
    wordAt (written before sectorSize pageSize seed numbers) 24 = pageSize := by
  simp only [written, headSector, List.append_assoc]
  rw [← List.append_assoc, ← List.append_assoc, ← List.append_assoc, ← List.append_assoc]
  exact wordAt_append rfl small

theorem checksum_lt (seed : Nat) (page : List UInt8) : checksum seed page < 0x100000000 := Nat.mod_lt _ (by decide)

theorem holds_record {earlier later : List UInt8} (positive : 0 < n) (counted : n ≤ pageCount)
    (small : n < 0x100000000) :
    Holds (earlier ++ (record before pageSize seed n ++ later)) before pageSize pageCount seed earlier.length n := by
  have four : (wordBytes n).length = 4 := rfl
  refine ⟨?_, positive, counted, ?_, ?_, ?_⟩
  · rw [List.length_append, List.length_append, length_record]
    omega
  · rw [record, List.append_assoc]
    exact wordAt_append rfl small
  · rw [record, List.append_assoc, List.append_assoc, ← List.append_assoc earlier]
    exact byteRange_append (by rw [List.length_append, four]) length_filePage
  · have ends : (earlier ++ (wordBytes n ++ filePage before pageSize n)).length =
        earlier.length + pageSize + 8 - 4 := by
      rw [List.length_append, List.length_append, four, length_filePage]
      omega
    have parts : earlier ++ (record before pageSize seed n ++ later) =
        (earlier ++ (wordBytes n ++ filePage before pageSize n)) ++
          (wordBytes (checksum seed (filePage before pageSize n)) ++ later) := by
      simp only [record, List.append_assoc]
    rw [parts]
    exact wordAt_append ends (checksum_lt seed _)

theorem holdsAll_records {earlier : List UInt8} (fits : ∀ n ∈ numbers, 0 < n ∧ n ≤ pageCount)
    (small : pageCount < 0x100000000) :
    HoldsAll (earlier ++ numbers.flatMap (record before pageSize seed)) before pageSize pageCount seed earlier.length
      numbers := by
  induction numbers generalizing earlier with
  | nil => exact trivial
  | cons n rest ih =>
    obtain ⟨⟨positive, counted⟩, fits⟩ := List.forall_mem_cons.mp fits
    have later : HoldsAll (earlier ++ record before pageSize seed n ++ rest.flatMap (record before pageSize seed))
        before pageSize pageCount seed (earlier ++ record before pageSize seed n).length rest := ih fits
    rw [List.length_append, length_record, List.append_assoc] at later
    exact ⟨holds_record positive counted (Nat.lt_of_le_of_lt counted small), later⟩

/-- A change is taken back by a journal that has been written before it, if that has the pages which the change has left
otherwise. -/
theorem takeBack_written {presumedPage : Nat} (sectors : 32 ≤ sectorSize ∧ sectorSize ≤ 65536 ∧ isPowerOfTwo sectorSize)
    (pages : isPageSize pageSize) (seeded : seed < 0x100000000) (few : numbers.length < 0xFFFFFFFF)
    (length : before.length = pageCount * pageSize) (room : before.length ≤ fileSizeLimit)
    (fits : ∀ n ∈ numbers, 0 < n ∧ n ≤ pageCount)
    (kept : ∀ n, 0 < n → n ≤ pageCount → n ∉ numbers →
      n * pageSize ≤ file.length ∧ filePage file pageSize n = filePage before pageSize n) :
    takeBack (written before sectorSize pageSize seed numbers) file sectorSize presumedPage = before := by
  have sizes : 512 ≤ pageSize ∧ pageSize ≤ 65536 := by
    simp only [isPageSize, Bool.and_eq_true, decide_eq_true_eq] at pages
    exact pages.1
  have paged : before.length / pageSize = pageCount := by rw [length, Nat.mul_div_cancel _ (by omega)]
  have small : pageCount < 0x100000000 := by
    have least : pageCount ≤ pageCount * pageSize := Nat.le_mul_of_pos_right pageCount (by omega)
    have limit : fileSizeLimit < 0x100000000 := by decide
    omega
  have headed : header? (written before sectorSize pageSize seed numbers) sectorSize 0 =
      some ⟨numbers.length, seed, before.length / pageSize⟩ :=
    header?_written (by omega) seeded (by omega) (paged.symm ▸ small)
  rw [paged] at headed
  have first : nextSector sectorSize 0 = 0 := by
    rw [nextSector, Nat.div_eq_of_lt (by omega), Nat.zero_mul]
  have held : HoldsAll (written before sectorSize pageSize seed numbers) before pageSize pageCount seed
      (nextSector sectorSize 0 + sectorSize) numbers := by
    have head : (headSector before sectorSize pageSize seed numbers).length = sectorSize := length_headSector (by omega)
    have all : HoldsAll (written before sectorSize pageSize seed numbers) before pageSize pageCount seed
        (headSector before sectorSize pageSize seed numbers).length numbers := holdsAll_records fits small
    rw [head] at all
    rwa [first, Nat.zero_add]
  have ended : header? (written before sectorSize pageSize seed numbers) sectorSize
      (nextSector sectorSize (nextSector sectorSize 0 + sectorSize + numbers.length * (pageSize + 8))) = none := by
    have behind := le_nextSector (Nat.lt_of_lt_of_le (by decide) sectors.1)
      (nextSector sectorSize 0 + sectorSize + numbers.length * (pageSize + 8))
    refine if_neg fun inside => ?_
    rw [length_written (by omega)] at inside
    omega
  have counted : JournalHeader.records ⟨numbers.length, seed, pageCount⟩
      (written before sectorSize pageSize seed numbers) sectorSize pageSize = numbers.length :=
    if_neg (Nat.ne_of_lt few)
  have there := Sections.follows (first.symm ▸ headed) counted held (.ended ended)
  rw [List.append_nil] at there
  have toldPage : (if wordAt (written before sectorSize pageSize seed numbers) 24 = 0 then presumedPage
      else wordAt (written before sectorSize pageSize seed numbers) 24) = pageSize := by
    rw [pageSize_written (by omega), if_neg (by omega)]
  exact takeBack_eq headed sectors pages (sectorSize_written (by omega)) toldPage length room there kept

end Journal

end InspectionForms
