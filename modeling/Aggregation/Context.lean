import Aggregation.Calendar
import Aggregation.Property

/-!
This module contains what the resolution of names and times depends on.
-/

namespace Aggregation

structure Context where
  resolveProperty : Property → Except Error String := Property.path
  encodeInstant : Instant → Bson := Instant.toBson

end Aggregation
