/-!
# Clock readings

Some texts show times. The program measures nothing itself: the readings are handed to it as the texts
to be shown.
-/

set_option autoImplicit false

namespace BooleanRetrieval

/-- The clock readings that texts show. -/
structure Clock where
  /-- Date and time of a log record. -/
  stamp : String
  /-- Seconds of a build, with two places. -/
  buildSeconds : String
  /-- Seconds of saving a file, with three places. -/
  saveSeconds : String
  /-- Milliseconds of saving a file. -/
  saveMillis : String
  /-- Milliseconds of a query, with one place. -/
  queryMillis : String

end BooleanRetrieval
