import ReleaseBundle.Archive.Stream

/-!
# The pieces of an archive

What a writer gives in the course of some items, put together, is the archive of these items. The
statement is about a writer that has written something already, because that is what it is after the
first item: a zip writer knows how far it is, and a tar writer keeps what it owes.
-/

namespace ReleaseBundle.Archive.Writer

/-- What a writer adds for further items and at the end. -/
def output (w : Writer) : List Item → Bytes
  | [] => w.finish
  | i :: is => (w.add i).2 ++ (w.add i).1.output is

theorem output_zip (w : Zip.Writer) (items : List Item) :
    (zip w).output items =
      (items.map Zip.Member.ofItem).flatMap Zip.Member.localRecord ++
        ((items.map Zip.Member.ofItem).foldl Zip.Writer.add w).finish := by
  induction items generalizing w with
  | nil => rfl
  | cons i is ih => simp [output, add, ih]

theorem output_tarGz (written : List Bytes) (items : List Item) :
    (tarGz written).output items =
      Gzip.encode (written.reverse.flatten ++ (items.flatMap Tar.encodeItem ++ Tar.trailer)) := by
  induction items generalizing written with
  | nil => simp [output, finish]
  | cons i is ih => simp [output, add, ih]

theorem output_start (f : Format) (items : List Item) : (start f).output items = encode f items := by
  cases f with
  | zip => exact output_zip .start items
  | tarGz => simp [start, output_tarGz, encode, Tar.encode]

end ReleaseBundle.Archive.Writer
