import BlendPool.Security.Queries
import BlendPool.Verification.Acceptance
import BlendPool.Handler.Unwind
import BlendPool.Handler.Authority
import BlendPool.Handler.Interest
import BlendPool.Handler.ClaimSafety
import BlendPool.Handler.Convergence
import BlendPool.Stack.Retirement
import BlendPool.Stack.Delivery
import BlendPool.Stack.Verdict
import BlendPool.Stack.Service
import BlendPool.Handler.Arithmetic
import BlendPool.Handler.Bypass
import BlendPool.Handler.Manual
import BlendPool.Handler.Journal
import BlendPool.Handler.Exposure
import BlendPool.Handler.Absorption
import BlendPool.Handler.BadDebt
import BlendPool.Verification.Arithmetic
import BlendPool.Frontend.Amounts
import BlendPool.Frontend.Forms
import BlendPool.Frontend.Prediction
import BlendPool.Frontend.Requests
