import ZKAPAuthorizer.Common
import ZKAPAuthorizer.PassValidation
import ZKAPAuthorizer.StorageServer
import ZKAPAuthorizer.Spending
import ZKAPAuthorizer.SpendingRun
import ZKAPAuthorizer.Recover
import ZKAPAuthorizer.RemoteInterface
import ZKAPAuthorizer.RecoverImport
